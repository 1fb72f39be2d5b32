import Tabular.Proofs.Table.Built
import Tabular.SaveFile.Decode
import Tabular.SaveFile.Encode

namespace Tabular

def Operation.DeclaresKey : Operation → Prop
  | .setKey _ | .setKeyByName _ => True
  | _ => False

/-- A column that holds nothing yet leaves every value of a row where it was. -/
theorem Row.value_append_null (row : Row) (column : Nat) :
    Row.value (row ++ [.null]) column = row.value column := by
  simp only [value, List.getD_eq_getElem?_getD, List.getElem?_append, List.getElem?_singleton]
  split
  · rfl
  · rename_i hl
    rw [List.getElem?_eq_none (Nat.le_of_not_lt hl)]
    split <;> rfl

namespace Sheet

variable {s s' : Sheet}

theorem Keyed.addColumn (h : s.Keyed) (field : Field) : (s.addColumn field).Keyed := by
  intro hk i j a b hij ha hb hagree
  simp only [Sheet.addColumn, List.getElem?_map] at ha hb
  obtain ⟨olda, holda, rfl⟩ := Option.map_eq_some_iff.mp ha
  obtain ⟨oldb, holdb, rfl⟩ := Option.map_eq_some_iff.mp hb
  refine h hk i j olda oldb hij holda holdb ?_
  intro column hc
  have hsame := hagree column hc
  rwa [Row.value_append_null, Row.value_append_null] at hsame

/-- Only a declaration of the key can end the difference of the rows. -/
theorem Keyed.apply (h : s.Keyed) {op : Operation} (hop : ¬ op.DeclaresKey)
    (hs : s.apply op = .ok s') : s'.Keyed := by
  cases op with
  | addColumn field =>
    cases hs
    exact h.addColumn field
  | declareColumn typeText name =>
    unfold Sheet.apply declareColumn at hs
    dsimp only at hs
    split at hs
    · cases hs
      exact h.addColumn _
    · cases hs
  | setKey indices => exact absurd trivial hop
  | setKeyByName names => exact absurd trivial hop
  | insert row => exact h.insert hs
  | update row column v => exact h.update hs
  | delete row =>
    cases hs
    exact h.delete row
  | clear =>
    cases hs
    exact s.keyed_clear
  | rename name =>
    cases hs
    exact h

end Sheet

theorem replay_append (apply : σ → Operation → Except Error σ) (s : σ)
    (front rest : List Operation) :
    (replay apply s (front ++ rest)).1 = (replay apply (replay apply s front).1 rest).1 := by
  induction front generalizing s with
  | nil => rfl
  | cons op front ih =>
    simp only [List.cons_append, replay]
    cases apply s op with
    | ok next => exact ih next
    | error e => exact ih s

namespace Table

variable {t t' : Table}

/-- The table that operations on a new one lead to. -/
def after (name : String) (ops : List Operation) : Table :=
  (replay Table.apply (empty name) ops).1

theorem sound_after (name : String) (ops : List Operation) : (after name ops).Sound :=
  ((sound_empty name).replay ops).1

theorem after_append_of_ok {name : String} {front : List Operation} {op : Operation}
    (h : (after name front).apply op = .ok t') : after name (front ++ [op]) = t' := by
  unfold after at h ⊢
  rw [replay_append, replay, h]
  rfl

theorem after_append_of_error {name : String} {front : List Operation} {op : Operation} {e : Error}
    (h : (after name front).apply op = .error e) :
    after name (front ++ [op]) = after name front := by
  unfold after at h ⊢
  rw [replay_append, replay, h]
  rfl

theorem setKeyByName_eq_ok {names : List String} (h : t.setKeyByName names = .ok t') :
    ∃ indices, t.setKey indices = .ok t' := by
  obtain ⟨indices, -, h⟩ := bind_eq_ok.mp h
  exact ⟨indices, h⟩

/-- The rows stay whatever key is declared over them. -/
theorem sheet_of_declaresKey {op : Operation} (hop : op.DeclaresKey) (h : t.apply op = .ok t') :
    t'.sheet = { t.sheet with key := t'.key.toFinset } := by
  have hkey : ∃ indices, t.setKey indices = .ok t' := by
    cases op with
    | setKey indices => exact ⟨indices, h⟩
    | setKeyByName names => exact setKeyByName_eq_ok h
    | _ => cases hop
  obtain ⟨indices, hset⟩ := hkey
  rw [setKey_eq_ok hset]
  rfl

/-- One operation keeps the rows different on the key, unless it declares a key on which they are
not. -/
theorem keyed_after_append {name : String} {front : List Operation} {op : Operation}
    (h : (after name front).sheet.Keyed)
    (hkey : op.DeclaresKey → ∀ t', (after name front).apply op = .ok t' →
      Sheet.Keyed { (after name front).sheet with key := t'.key.toFinset }) :
    (after name (front ++ [op])).sheet.Keyed := by
  cases hr : (after name front).apply op with
  | error e =>
    rw [after_append_of_error hr]
    exact h
  | ok t' =>
    rw [after_append_of_ok hr]
    by_cases hop : op.DeclaresKey
    · rw [sheet_of_declaresKey hop hr]
      exact hkey hop t' hr
    · have hm := (sound_after name front).apply op
      rw [hr] at hm
      exact h.apply hop hm.ok.2

/-- The rows of a table differ on its key after every step of a run exactly if, whenever the run
declares a key, the rows that are stored by then differ on it. -/
theorem keyed_after_iff (name : String) (ops : List Operation) :
    (∀ front, front <+: ops → (after name front).sheet.Keyed) ↔
      ∀ front op t', front ++ [op] <+: ops → op.DeclaresKey →
        (after name front).apply op = .ok t' →
          Sheet.Keyed { (after name front).sheet with key := t'.key.toFinset } := by
  constructor
  · intro h front op t' hfront hop happly
    have hkeyed := h (front ++ [op]) hfront
    rw [after_append_of_ok happly, sheet_of_declaresKey hop happly] at hkeyed
    exact hkeyed
  · intro h front
    induction front using List.reverseRecOn with
    | nil => exact fun _ => Sheet.keyed_of_no_rows rfl
    | append_singleton front op ih =>
      intro hfront
      refine keyed_after_append (ih ((List.prefix_append front [op]).trans hfront)) ?_
      exact fun hop t' happly => h front op t' hfront hop happly

/-- Two equal rows, and then a key. -/
def lateKey : List Operation :=
  [.addColumn ⟨"place", .int⟩, .insert [.int 1], .insert [.int 1], .setKey [0]]

def lateKeyFile : String := "1\nseat\n1\nint place\n1 0\n2\n1\n1\n"

/-- The key is taken over rows that share it, and the table is saved to a file that cannot be
loaded. -/
theorem not_keyed_lateKey :
    (replay Table.apply (empty "seat") lateKey).2 = [.ok (), .ok (), .ok (), .ok ()] ∧
      ¬ (after "seat" lateKey).sheet.Keyed ∧
      SaveFile.encode [after "seat" lateKey] = .ok lateKeyFile ∧
      (SaveFile.decode lateKeyFile).isOk = false := by
  have hrows : (after "seat" lateKey).rows = [[.int 1], [.int 1]] := by
    decide +kernel
  have hkey : (after "seat" lateKey).key = [0] := by
    decide +kernel
  refine ⟨by decide +kernel, fun h => ?_, by decide +kernel, by decide +kernel⟩
  have hsheet : (after "seat" lateKey).sheet.key = {0} := by
    unfold sheet
    rw [hkey]
    rfl
  refine h ?_ 0 1 [.int 1] [.int 1] Nat.zero_ne_one ?_ ?_ ?_
  · rw [hsheet]
    exact Finset.singleton_nonempty 0
  · exact congrArg (·[0]?) hrows
  · exact congrArg (·[1]?) hrows
  · rw [hsheet]
    decide

end Table

end Tabular
