import Tabular.Proofs.SaveFile.Settled
import Tabular.Proofs.SaveFile.Written

namespace Tabular
open SaveFile

/-- No text of the row would break its line. -/
def Row.Unbroken (row : Row) : Prop :=
  ∀ content, Value.text content ∈ row → '\n' ∉ content.toList ∧ '\r' ∉ content.toList

/-- Where the first text stands that would break its line: in front of its table, of its row and of
the text itself there is none. -/
structure FirstBreak (ts : List Table) where
  before : List Table
  table : Table
  after : List Table
  front : List Row
  back : List Row
  left : Row
  content : String
  right : Row
  tables : ts = before ++ table :: after
  rows : table.rows = front ++ (left ++ Value.text content :: right) :: back
  before_unbroken : ∀ t ∈ before, t.Unbroken
  front_unbroken : ∀ row ∈ front, row.Unbroken
  left_unbroken : left.Unbroken
  broken : '\n' ∈ content.toList ∨ '\r' ∈ content.toList

namespace FirstBreak

variable {ts : List Table}

def row (first : FirstBreak ts) : Row :=
  first.left ++ Value.text first.content :: first.right

/-- The line that would hold the row: in front of it stand the tables before its own, and the head
and the first rows of that. -/
def line (first : FirstBreak ts) : Nat :=
  extent first.before + (4 + first.table.width) + (first.front.length + 1)

end FirstBreak

namespace SaveFile

theorem breaksLine_eq_true {text : String} :
    breaksLine text = true ↔ '\n' ∈ text.toList ∨ '\r' ∈ text.toList := by
  rw [← Bool.not_eq_false, breaksLine_eq_false, not_and_or, not_not, not_not]

theorem brokenText_eq_some {row : Row} {content : String} (h : brokenText row = some content) :
    ∃ left right, row = left ++ .text content :: right ∧ Row.Unbroken left ∧
      ('\n' ∈ content.toList ∨ '\r' ∈ content.toList) := by
  obtain ⟨left, v, right, rfl, hv, hleft⟩ := List.findSome?_eq_some_iff.mp h
  have hunbroken := brokenText_eq_none.mp (List.findSome?_eq_none_iff.mpr hleft)
  cases v with
  | text found =>
    dsimp only at hv
    split at hv
    · rename_i hbreak
      cases hv
      exact ⟨left, right, rfl, hunbroken, breaksLine_eq_true.mp hbreak⟩
    · cases hv
  | _ => cases hv

theorem encodeRow_eq_error {line : Nat} {row : Row} {fault : Fault}
    (h : encodeRow line row = .error fault) :
    ∃ content, brokenText row = some content ∧ fault = ⟨line, .lineBreak content⟩ := by
  unfold encodeRow at h
  split at h
  · rename_i content hbroken
    exact ⟨content, hbroken, (Except.error.inj h).symm⟩
  · cases h

theorem encodeRows_eq_error {line : Nat} {rows : List Row} {fault : Fault}
    (h : encodeRows line rows = .error fault) :
    ∃ front row back content, rows = front ++ row :: back ∧ (∀ r ∈ front, Row.Unbroken r) ∧
      brokenText row = some content ∧ fault = ⟨line + front.length, .lineBreak content⟩ := by
  induction rows generalizing line with
  | nil => cases h
  | cons row rest ih =>
    rcases bind_eq_error.mp h with hrow | ⟨text, hrow, h⟩
    · obtain ⟨content, hbroken, rfl⟩ := encodeRow_eq_error hrow
      exact ⟨[], row, rest, content, rfl, nofun, hbroken, rfl⟩
    · rcases bind_eq_error.mp h with hrest | ⟨_, -, hend⟩
      · obtain ⟨front, found, back, content, rfl, hfront, hbroken, rfl⟩ := ih hrest
        have hunbroken := brokenText_eq_none.mp (encodeRow_eq_ok.mp hrow).1
        refine ⟨row :: front, found, back, content, rfl, ?_, hbroken, ?_⟩
        · exact List.forall_mem_cons.mpr ⟨hunbroken, hfront⟩
        · rw [List.length_cons, Nat.add_right_comm, Nat.add_assoc]
      · cases hend

theorem encodeTables_eq_error {line : Nat} {ts : List Table} {fault : Fault}
    (h : encodeTables line ts = .error fault) :
    ∃ before t after, ts = before ++ t :: after ∧ (∀ other ∈ before, other.Unbroken) ∧
      encodeRows (line + together tableExtent before + (4 + t.width)) t.rows = .error fault := by
  induction ts generalizing line with
  | nil => cases h
  | cons t rest ih =>
    rcases bind_eq_error.mp h with hrows | ⟨texts, hrows, h⟩
    · refine ⟨[], t, rest, rfl, nofun, ?_⟩
      rw [together, Nat.add_zero, Nat.add_comm 4, ← Nat.add_assoc]
      exact hrows
    · rcases bind_eq_error.mp h with hrest | ⟨_, -, hend⟩
      · obtain ⟨before, found, after, rfl, hbefore, hfound⟩ := ih hrest
        have hunbroken : t.Unbroken := fun row hr =>
          brokenText_eq_none.mp ((encodeRows_eq_ok.mp hrows).1 row hr)
        refine ⟨t :: before, found, after, rfl, List.forall_mem_cons.mpr ⟨hunbroken, hbefore⟩, ?_⟩
        rw [← hfound, together, tableExtent]
        congr 1
        omega
      · cases hend

/-- The fault is that of the first text that would break its line. -/
theorem encode_eq_error_first {ts : List Table} {fault : Fault} (h : encode ts = .error fault) :
    ∃ first : FirstBreak ts, fault = ⟨first.line, .lineBreak first.content⟩ := by
  rcases bind_eq_error.mp h with h | ⟨_, -, hend⟩
  · obtain ⟨before, t, after, hts, hbefore, hrows⟩ := encodeTables_eq_error h
    obtain ⟨front, row, back, content, heq, hfront, hbroken, rfl⟩ := encodeRows_eq_error hrows
    obtain ⟨left, right, rfl, hleft, hbreak⟩ := brokenText_eq_some hbroken
    refine ⟨⟨before, t, after, front, back, left, content, right, hts, heq, hbefore, hfront, hleft,
      hbreak⟩, ?_⟩
    unfold FirstBreak.line extent
    dsimp only
    congr 1
    omega
  · cases hend

end SaveFile

/-- A text that would break its line gives way to one that would not, and nothing else changes. -/
inductive Value.Mends : Value → Value → Prop where
  | kept {v : Value}
    (h : ∀ content, v = .text content → '\n' ∉ content.toList ∧ '\r' ∉ content.toList) : Mends v v
  | mended {content other : String} (h : '\n' ∈ content.toList ∨ '\r' ∈ content.toList)
    (ho : '\n' ∉ other.toList ∧ '\r' ∉ other.toList) : Mends (.text content) (.text other)

/-- All of the texts are mended that would break their lines. -/
structure Table.Mends (t t' : Table) : Prop where
  sound : t'.Sound
  name : t'.name = t.name
  schema : t'.schema = t.schema
  key : t'.key = t.key
  rows : t.rows.Forall₂ (List.Forall₂ Value.Mends) t'.rows

/-- A text is left out if it would break its line. -/
def Value.mend : Value → Value
  | .text content => .text (if breaksLine content then "" else content)
  | v => v

theorem Value.mends_mend (v : Value) : v.Mends v.mend := by
  cases v with
  | text content =>
    unfold mend
    dsimp only
    split
    · rename_i h
      exact .mended (breaksLine_eq_true.mp h) ⟨by decide, by decide⟩
    · rename_i h
      refine .kept fun other heq => ?_
      cases heq
      exact breaksLine_eq_false.mp (by simpa using h)
  | _ => exact .kept nofun

theorem Value.isFinite_mend (v : Value) : v.mend.isFinite = v.isFinite := by
  cases v <;> rfl

/-- The cells that hold texts are mended. -/
def Column.mend : Column → Column
  | ⟨name, .text, cells, nulls⟩ =>
    ⟨name, .text, cells.map fun text : String => if breaksLine text then "" else text, nulls⟩
  | column => column

namespace Column

variable {c : Column} {n : Nat}

theorem field_mend (c : Column) : c.mend.field = c.field := by
  obtain ⟨name, kind, cells, nulls⟩ := c
  cases kind <;> rfl

theorem get?_mend (c : Column) (i : Nat) : c.mend.get? i = (c.get? i).map Value.mend := by
  obtain ⟨name, kind, cells, nulls⟩ := c
  cases kind <;> unfold mend get? <;> dsimp only
  case text =>
    rw [Array.getElem?_map]
    rcases nulls[i]? with _ | _ | _ <;> cases cells[i]? <;> rfl
  all_goals rcases nulls[i]? with _ | _ | _ <;> cases cells[i]? <;> rfl

theorem size_mend (c : Column) :
    c.mend.nulls.size = c.nulls.size ∧ c.mend.cells.size = c.cells.size := by
  obtain ⟨name, kind, cells, nulls⟩ := c
  cases kind <;> simp [mend]

theorem values_mend (c : Column) : c.mend.values = c.values.map Value.mend := by
  unfold values
  rw [List.map_filterMap, show c.mend.size = c.size from c.size_mend.1]
  exact List.filterMap_congr fun i _ => c.get?_mend i

theorem Sound.mend (h : c.Sound n) : c.mend.Sound n := by
  refine ⟨c.size_mend.1.trans h.nulls, c.size_mend.2.trans h.cells, ?_⟩
  rw [values_mend]
  refine List.forall_mem_map.mpr fun v hv => ?_
  rw [v.isFinite_mend]
  exact h.finite v hv

end Column

namespace Table

variable {t : Table}

def mend (t : Table) : Table :=
  { t with columns := t.columns.map Column.mend }

theorem rowAt_mend (t : Table) (i : Nat) : t.mend.rowAt i = (t.rowAt i).map Value.mend := by
  unfold rowAt mend
  rw [List.map_map, List.map_map]
  refine List.map_congr_left fun c _ => ?_
  change c.mend.values.getD i .null = (c.values.getD i .null).mend
  rw [c.values_mend, List.getD_eq_getElem?_getD, List.getElem?_map, List.getD_eq_getElem?_getD]
  cases c.values[i]? <;> rfl

theorem Sound.mend (h : t.Sound) : t.mend.Sound := by
  refine ⟨?_, h.ordered, ?_⟩
  · exact List.forall_mem_map.mpr fun c hc => (h.columns c hc).mend
  · intro index hi
    have hw : t.mend.width = t.width := List.length_map _
    rw [hw]
    exact h.bounded index hi

theorem Sound.rows_mend (h : t.Sound) : t.mend.rows = t.rows.map (·.map Value.mend) := by
  rw [h.mend.rows_eq, h.rows_eq, List.map_map]
  exact List.map_congr_left fun i _ => t.rowAt_mend i

/-- Every table can be mended. -/
theorem Sound.mends_mend (h : t.Sound) : t.Mends t.mend := by
  refine ⟨h.mend, rfl, ?_, rfl, ?_⟩
  · change (t.columns.map Column.mend).map Column.field = t.columns.map Column.field
    rw [List.map_map]
    exact List.map_congr_left fun c _ => c.field_mend
  · rw [h.rows_mend, List.forall₂_map_right_iff, List.forall₂_same]
    intro row _
    rw [List.forall₂_map_right_iff, List.forall₂_same]
    exact fun v _ => v.mends_mend

end Table

end Tabular
