import Tabular.Proofs.Table.Keyed
import Tabular.Proofs.Text.Lines

namespace Tabular
open Text

/-- A table begins with its columns and its key, and after that only its rows change. -/
inductive Table.Built : Table → Prop where
  | declared {name : String} {schema : Schema} {indices : List Nat} {t : Table}
    (hname : Title name.toList) (hfields : ∀ field ∈ schema, Word field.name.toList)
    (h : (Table.ofSchema name schema).setKey indices = .ok t) : Built t
  | insert {t t' : Table} {row : Row} (ht : Built t) (h : t.insert row = .ok t') : Built t'
  | update {t t' : Table} {row column : Nat} {v : Value} (ht : Built t)
    (h : t.update row column v = .ok t') : Built t'
  | delete {t : Table} (ht : Built t) (row : Nat) : Built (t.delete row)
  | clear {t : Table} (ht : Built t) : Built t.clear

/-- The names can be written on their lines, and no two rows share the key. -/
structure Sheet.Fit (s : Sheet) : Prop where
  name : Title s.name.toList
  fields : ∀ field ∈ s.schema, Word field.name.toList
  keyed : s.Keyed

namespace Sheet

variable {s s' : Sheet}

theorem setKey_ok {indices : List Nat} (h : s.setKey indices = .ok s') :
    s' = { s with key := indices.toFinset } := by
  unfold setKey at h
  split at h
  · cases h
  · cases h
    rfl

theorem Fit.insert (hs : s.Fit) {row : Row} (h : s.insert row = .ok s') : s'.Fit := by
  have hkeyed := hs.keyed.insert h
  obtain ⟨filled, -, -, -, -, rfl⟩ := insert_ok h
  exact ⟨hs.name, hs.fields, hkeyed⟩

theorem Fit.update (hs : s.Fit) {row column : Nat} {v : Value}
    (h : s.update row column v = .ok s') : s'.Fit := by
  have hkeyed := hs.keyed.update h
  obtain ⟨old, field, -, -, -, -, rfl⟩ := update_ok h
  exact ⟨hs.name, hs.fields, hkeyed⟩

theorem Fit.delete (hs : s.Fit) (row : Nat) : (s.delete row).Fit :=
  ⟨hs.name, hs.fields, hs.keyed.delete row⟩

theorem Fit.clear (hs : s.Fit) : s.clear.Fit :=
  ⟨hs.name, hs.fields, s.keyed_clear⟩

end Sheet

namespace Table

variable {t t' : Table}

/-- A result that is a table is a sound one and shows the result on sheets. -/
theorem Matches.ok {expected : Except Error Sheet} (h : Matches (.ok t) expected) :
    t.Sound ∧ expected = .ok t.sheet := h

theorem Matches.exists {result : Except Error Table} {s : Sheet} (h : Matches result (.ok s)) :
    ∃ t, result = .ok t ∧ t.Sound ∧ t.sheet = s := by
  cases result with
  | error e => cases h
  | ok t => exact ⟨t, rfl, h.1, (Except.ok.inj h.2).symm⟩

theorem Matches.eq_error {result : Except Error Table} {e : Error}
    (h : Matches result (.error e)) : result = .error e := by
  cases result with
  | error e' => exact congrArg _ (Except.error.inj h).symm
  | ok t => cases h.2

theorem Sound.length_key (h : t.Sound) : t.key.length ≤ t.width := by
  have hsub : t.key.toFinset ⊆ Finset.range t.width := fun index hi =>
    Finset.mem_range.mpr (h.bounded index (List.mem_toFinset.mp hi))
  have hcard := Finset.card_le_card hsub
  rwa [List.toFinset_card_of_nodup (h.ordered.imp Nat.ne_of_lt), Finset.card_range] at hcard

/-- Columns declared one after another are all there, over no rows. -/
theorem Sound.foldl_addColumn (h : t.Sound) (hrows : t.rows = []) (schema : Schema) :
    (schema.foldl Table.addColumn t).Sound ∧
      (schema.foldl Table.addColumn t).sheet = { t.sheet with schema := t.schema ++ schema } := by
  induction schema generalizing t with
  | nil => exact ⟨h, by rw [List.append_nil]; rfl⟩
  | cons field rest ih =>
    have hsheet := h.sheet_addColumn field
    have hschema : (t.addColumn field).schema = t.schema ++ [field] := congrArg Sheet.schema hsheet
    have hnone : (t.addColumn field).rows = [] := by rw [h.rows_addColumn, hrows]; rfl
    obtain ⟨hsound, heq⟩ := ih (h.addColumn field) hnone
    refine ⟨hsound, ?_⟩
    rw [List.foldl_cons, heq, hsheet, hschema, List.append_assoc]
    simp [Sheet.addColumn, sheet, hrows]

theorem sound_ofSchema (name : String) (schema : Schema) : (ofSchema name schema).Sound :=
  ((sound_empty name).foldl_addColumn (rows_empty name) schema).1

theorem sheet_ofSchema (name : String) (schema : Schema) :
    (ofSchema name schema).sheet = ⟨name, schema, ∅, []⟩ :=
  ((sound_empty name).foldl_addColumn (rows_empty name) schema).2

/-- The names and the key of a table declare it anew, without its rows. -/
theorem Sound.redeclare (h : t.Sound) : ∃ keyed,
    (ofSchema t.name t.schema).setKey t.key = .ok keyed ∧ keyed.Sound ∧
      keyed.sheet = { t.sheet with rows := [] } := by
  have hbounded : ∀ index ∈ t.key, index < t.schema.length := by
    rw [t.length_schema]
    exact h.bounded
  have hm := (sound_ofSchema t.name t.schema).setKey t.key
  rw [sheet_ofSchema, Sheet.setKey_of_bounded hbounded] at hm
  exact hm.exists

/-- Rows that share no key, with each other or with those already there, are inserted. -/
theorem Sound.insertAll (h : t.Sound) {rows : List Row} (hrows : ∀ row ∈ rows, t.schema.Holds row)
    (hk : ({ t.sheet with rows := t.rows ++ rows } : Sheet).Keyed) :
    ∃ t', t.insertAll rows = .ok t' ∧ t'.Sound ∧
      t'.sheet = { t.sheet with rows := t.rows ++ rows } := by
  induction rows generalizing t with
  | nil => exact ⟨t, rfl, h, by rw [List.append_nil]; rfl⟩
  | cons row rest ih =>
    obtain ⟨hrow, hrest⟩ := List.forall_mem_cons.mp hrows
    have hm := h.insert row
    rw [Sheet.insert_of_free hrow.1 hrow.2 hk.free] at hm
    obtain ⟨next, hinsert, hsound, hsheet⟩ := hm.exists
    have hschema : next.schema = t.schema := congrArg Sheet.schema hsheet
    have hnext : next.rows = t.rows ++ [row] := congrArg Sheet.rows hsheet
    have hlast : ({ next.sheet with rows := next.rows ++ rest } : Sheet) =
        { t.sheet with rows := t.rows ++ row :: rest } := by
      rw [hsheet, hnext, List.append_assoc]
      rfl
    obtain ⟨last, hall, hlastSound, heq⟩ := ih hsound (by rwa [hschema]) (by rwa [hlast])
    exact ⟨last, bind_eq_ok.mpr ⟨next, hinsert, hall⟩, hlastSound, heq.trans hlast⟩

theorem setKey_eq_ok {indices : List Nat} (h : t.setKey indices = .ok t') :
    t' = { t with key := indices.foldr insertIndex [] } := by
  unfold setKey at h
  dsimp only at h
  split at h
  · cases h
  · cases h
    rfl

theorem schema_setKey {indices : List Nat} (h : t.setKey indices = .ok t') :
    t'.schema = t.schema := by
  rw [setKey_eq_ok h]
  rfl

theorem schema_ofSchema (name : String) (schema : Schema) :
    (ofSchema name schema).schema = schema :=
  congrArg Sheet.schema (sheet_ofSchema name schema)

theorem rowCount_ofSchema (name : String) (schema : Schema) :
    (ofSchema name schema).rowCount = 0 := by
  rw [← (sound_ofSchema name schema).length_rows]
  exact congrArg (List.length ∘ Sheet.rows) (sheet_ofSchema name schema)

theorem Built.sound_fit (h : t.Built) : t.Sound ∧ t.sheet.Fit := by
  induction h with
  | @declared name schema indices t hname hfields h =>
    have hm := (sound_ofSchema name schema).setKey indices
    rw [h, sheet_ofSchema] at hm
    obtain ⟨hsound, hsheet⟩ := hm.ok
    refine ⟨hsound, ?_⟩
    rw [Sheet.setKey_ok hsheet]
    exact ⟨hname, hfields, Sheet.keyed_of_no_rows rfl⟩
  | @insert t t' row _ h ih =>
    have hm := ih.1.insert row
    rw [h] at hm
    exact ⟨hm.ok.1, ih.2.insert hm.ok.2⟩
  | @update t t' row column v _ h ih =>
    have hm := ih.1.update row column v
    rw [h] at hm
    exact ⟨hm.ok.1, ih.2.update hm.ok.2⟩
  | delete _ row ih =>
    refine ⟨ih.1.delete row, ?_⟩
    rw [ih.1.sheet_delete]
    exact ih.2.delete row
  | @clear t _ ih =>
    refine ⟨ih.1.clear, ?_⟩
    rw [sheet_clear]
    exact ih.2.clear

end Table

end Tabular
