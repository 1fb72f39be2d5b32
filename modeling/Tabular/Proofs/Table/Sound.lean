import Tabular.Proofs.Sheet

namespace Tabular

/-- A row of the schema's width in which every value has its place. -/
def Schema.Holds (schema : Schema) (row : Row) : Prop :=
  row.length = schema.length ∧ ∀ p ∈ schema.zip row, p.1.refusal p.2 = none

theorem Schema.Holds.finite {schema : Schema} {row : Row} (h : schema.Holds row) :
    ∀ v ∈ row, v.isFinite = true := by
  intro v hv
  have hzip : (schema.zip row).map Prod.snd = row := List.map_snd_zip (Nat.le_of_eq h.1)
  rw [← hzip] at hv
  obtain ⟨p, hp, rfl⟩ := List.mem_map.mp hv
  exact Field.finite_of_accepted (h.2 p hp)

namespace Table

/-- Every column ends at the last row, and the key lists places of columns in ascending order. -/
structure Sound (t : Table) : Prop where
  columns : ∀ c ∈ t.columns, c.Sound t.rowCount
  ordered : t.key.Pairwise (· < ·)
  bounded : ∀ index ∈ t.key, index < t.width

def rowAt (t : Table) (i : Nat) : Row :=
  t.columns.map fun c => c.values.getD i .null

/-- What `insert` makes of a table that accepts the row. -/
def appendRow (t : Table) (row : Row) : Table :=
  { t with
    columns := (t.columns.zip row).map fun (c, v) => c.append v
    rowCount := t.rowCount + 1 }

/-- What `update` makes of a table that accepts the value. -/
def writeCell (t : Table) (row column : Nat) (v : Value) : Table :=
  { t with columns := t.columns.modify column (·.write row v) }

theorem length_schema (t : Table) : t.schema.length = t.width := by
  simp [schema, width]

theorem length_rowAt (t : Table) (i : Nat) : (t.rowAt i).length = t.width := by
  simp [rowAt, width]

variable {t : Table}

theorem Sound.row?_eq (h : t.Sound) (i : Nat) :
    t.row? i = if i < t.rowCount then some (t.rowAt i) else none := by
  unfold row?
  split
  · rename_i hi
    apply mapM_some_of_forall
    intro c hc
    have hs := h.columns c hc
    rw [← Column.getElem?_values hs.aligned, List.getD_eq_getElem?_getD,
      List.getElem?_eq_getElem (by rw [hs.length]; exact hi)]
    rfl
  · rfl

theorem Sound.getElem?_rows (h : t.Sound) (i : Nat) : t.rows[i]? = t.row? i := by
  apply getElem?_filterMap_range []
  intro j
  rw [h.row?_eq]
  by_cases hj : j < t.rowCount <;> simp [hj]

theorem Sound.length_rows (h : t.Sound) : t.rows.length = t.rowCount := by
  apply length_filterMap_range
  intro i hi
  rw [h.row?_eq, if_pos hi]
  rfl

/-- The rows of a sound table are known by what stands at each place. -/
theorem Sound.rows_ext (h : t.Sound) {rows : List Row} (hl : rows.length = t.rowCount)
    (hr : ∀ i < t.rowCount, rows[i]? = some (t.rowAt i)) : t.rows = rows := by
  apply List.ext_getElem?
  intro i
  rw [h.getElem?_rows, h.row?_eq]
  split
  · rename_i hi
    exact (hr i hi).symm
  · rename_i hi
    exact (List.getElem?_eq_none (by omega)).symm

theorem Sound.rows_eq (h : t.Sound) : t.rows = (List.range t.rowCount).map t.rowAt := by
  apply h.rows_ext (by simp)
  intro i hi
  simp [hi]

theorem Sound.getElem?_rows_of_lt (h : t.Sound) {i : Nat} (hi : i < t.rowCount) :
    t.rows[i]? = some (t.rowAt i) := by
  rw [h.getElem?_rows, h.row?_eq, if_pos hi]

theorem Sound.length_row (h : t.Sound) {row : Row} (hr : row ∈ t.rows) : row.length = t.width := by
  rw [h.rows_eq] at hr
  obtain ⟨i, -, rfl⟩ := List.mem_map.mp hr
  exact t.length_rowAt i

theorem Sound.holds (h : t.Sound) {row : Row} (hr : row ∈ t.rows) : t.schema.Holds row := by
  refine ⟨(h.length_row hr).trans t.length_schema.symm, ?_⟩
  rw [h.rows_eq] at hr
  obtain ⟨i, hi, rfl⟩ := List.mem_map.mp hr
  intro p hp
  change p ∈ (t.columns.map Column.field).zip (t.columns.map fun c => c.values.getD i .null) at hp
  rw [List.zip_map'] at hp
  obtain ⟨c, hc, rfl⟩ := List.mem_map.mp hp
  have hs := h.columns c hc
  have hlt : i < c.values.length := by
    rw [hs.length]
    exact List.mem_range.mp hi
  apply hs.accepts
  dsimp only
  rw [List.getD_eq_getElem?_getD, List.getElem?_eq_getElem hlt]
  exact List.getElem_mem hlt

theorem sound_empty (name : String) : (empty name).Sound := by
  refine ⟨?_, List.Pairwise.nil, ?_⟩
  · intro c hc
    cases hc
  · intro i hi
    cases hi

theorem rows_empty (name : String) : (empty name).rows = [] := rfl

theorem Sound.addColumn (h : t.Sound) (field : Field) : (t.addColumn field).Sound := by
  refine ⟨?_, h.ordered, ?_⟩
  · intro c hc
    rcases List.mem_append.mp hc with hc | hc
    · exact h.columns c hc
    · rw [List.mem_singleton.mp hc]
      exact Column.sound_ofNulls field.name field.kind t.rowCount
  · intro i hi
    have := h.bounded i hi
    simp only [Table.addColumn, width, List.length_append, List.length_singleton] at this ⊢
    omega

theorem Sound.rows_addColumn (h : t.Sound) (field : Field) :
    (t.addColumn field).rows = t.rows.map (· ++ [.null]) := by
  apply (h.addColumn field).rows_ext
  · rw [List.length_map, h.length_rows]
    rfl
  · intro i hi
    have hn : i < t.rowCount := hi
    rw [List.getElem?_map, h.getElem?_rows_of_lt hn]
    simp [Table.addColumn, rowAt, hn]

theorem Sound.appendRow (h : t.Sound) {row : Row} (hl : row.length = t.width)
    (ha : ∀ p ∈ t.columns.zip row, p.1.field.refusal p.2 = none) : (t.appendRow row).Sound := by
  refine ⟨?_, h.ordered, ?_⟩
  · intro c hc
    obtain ⟨⟨old, v⟩, hp, rfl⟩ := List.mem_map.mp hc
    exact (h.columns old (List.of_mem_zip hp).1).append (ha _ hp)
  · intro i hi
    have := h.bounded i hi
    simp only [Table.appendRow, width, List.length_map, List.length_zip] at this hl ⊢
    omega

theorem schema_appendRow (t : Table) {row : Row} (hl : row.length = t.width) :
    (t.appendRow row).schema = t.schema := by
  have hz : (t.columns.zip row).map Prod.fst = t.columns :=
    List.map_fst_zip (Nat.le_of_eq hl.symm)
  calc (t.appendRow row).schema
      = ((t.columns.zip row).map Prod.fst).map Column.field := by
        simp [schema, Table.appendRow, Column.append, Column.field]
    _ = t.schema := by rw [hz]; rfl

theorem rowAt_appendRow_of_lt (h : t.Sound) {row : Row} (hl : row.length = t.width)
    (ha : ∀ p ∈ t.columns.zip row, p.1.field.refusal p.2 = none) {i : Nat} (hi : i < t.rowCount) :
    (t.appendRow row).rowAt i = t.rowAt i := by
  have hvalue : ∀ p ∈ t.columns.zip row,
      (p.1.append p.2).values.getD i .null = p.1.values.getD i .null := by
    intro p hp
    have hc := h.columns p.1 (List.of_mem_zip hp).1
    rw [Column.values_append hc (ha p hp), List.getD_eq_getElem?_getD, List.getD_eq_getElem?_getD,
      List.getElem?_append_left (by rw [hc.length]; exact hi)]
  calc (t.appendRow row).rowAt i
      = (t.columns.zip row).map fun p => (p.1.append p.2).values.getD i .null := by
        simp [rowAt, Table.appendRow, Function.comp_def]
    _ = (t.columns.zip row).map fun p => p.1.values.getD i .null := List.map_congr_left hvalue
    _ = ((t.columns.zip row).map Prod.fst).map fun c => c.values.getD i .null := by
        rw [List.map_map]
        rfl
    _ = t.rowAt i := by rw [List.map_fst_zip (Nat.le_of_eq hl.symm), rowAt]

theorem rowAt_appendRow_last (h : t.Sound) {row : Row} (hl : row.length = t.width)
    (ha : ∀ p ∈ t.columns.zip row, p.1.field.refusal p.2 = none) :
    (t.appendRow row).rowAt t.rowCount = row := by
  have hvalue : ∀ p ∈ t.columns.zip row,
      (p.1.append p.2).values.getD t.rowCount .null = p.2 := by
    intro p hp
    have hc := h.columns p.1 (List.of_mem_zip hp).1
    rw [Column.values_append hc (ha p hp), List.getD_eq_getElem?_getD, ← hc.length,
      List.getElem?_concat_length]
    rfl
  calc (t.appendRow row).rowAt t.rowCount
      = (t.columns.zip row).map fun p => (p.1.append p.2).values.getD t.rowCount .null := by
        simp [rowAt, Table.appendRow, Function.comp_def]
    _ = (t.columns.zip row).map Prod.snd := List.map_congr_left hvalue
    _ = row := List.map_snd_zip (Nat.le_of_eq hl)

theorem Sound.rows_appendRow (h : t.Sound) {row : Row} (hl : row.length = t.width)
    (ha : ∀ p ∈ t.columns.zip row, p.1.field.refusal p.2 = none) :
    (t.appendRow row).rows = t.rows ++ [row] := by
  apply (h.appendRow hl ha).rows_ext
  · rw [List.length_append, h.length_rows]
    rfl
  · intro i hi
    by_cases hn : i < t.rowCount
    · rw [rowAt_appendRow_of_lt h hl ha hn,
        List.getElem?_append_left (by rw [h.length_rows]; exact hn), h.getElem?_rows_of_lt hn]
    · have hi : i = t.rowCount := by
        simp only [Table.appendRow] at hi
        omega
      rw [hi, rowAt_appendRow_last h hl ha, ← h.length_rows, List.getElem?_concat_length]

theorem width_writeCell (t : Table) (row column : Nat) (v : Value) :
    (t.writeCell row column v).width = t.width := by
  simp [Table.writeCell, width]

theorem schema_writeCell (t : Table) (row column : Nat) (v : Value) :
    (t.writeCell row column v).schema = t.schema := by
  apply List.ext_getElem?
  intro i
  simp only [schema, Table.writeCell, List.getElem?_map, List.getElem?_modify]
  by_cases hi : column = i <;> cases t.columns[i]? <;> simp [hi, Column.write]

theorem Sound.writeCell (h : t.Sound) {row column : Nat} {v : Value} {target : Column}
    (hr : row < t.rowCount) (ht : t.columns[column]? = some target)
    (ha : target.field.refusal v = none) : (t.writeCell row column v).Sound := by
  refine ⟨?_, h.ordered, ?_⟩
  · intro c hc
    obtain ⟨i, hi⟩ := List.mem_iff_getElem?.mp hc
    simp only [Table.writeCell, List.getElem?_modify] at hi
    by_cases hcol : column = i
    · subst hcol
      simp only [ht, ↓reduceIte, Option.map_eq_map, Option.map_some, Option.some.injEq] at hi
      subst c
      exact (h.columns target (List.mem_of_getElem? ht)).write hr ha
    · simp only [hcol, ↓reduceIte, Option.map_eq_map, Option.map_id_fun', id_eq] at hi
      exact h.columns c (List.mem_of_getElem? hi)
  · intro i hi
    rw [width_writeCell]
    exact h.bounded i hi

theorem rowAt_writeCell (h : t.Sound) {row column : Nat} {v : Value} {target : Column}
    (hr : row < t.rowCount) (ht : t.columns[column]? = some target)
    (ha : target.field.refusal v = none) (i : Nat) :
    (t.writeCell row column v).rowAt i =
      if row = i then (t.rowAt i).set column v else t.rowAt i := by
  have hc := h.columns target (List.mem_of_getElem? ht)
  have hvalues := Column.values_write hc hr ha
  apply List.ext_getElem?
  intro j
  by_cases hj : column = j
  · subst hj
    have hw : column < (t.rowAt i).length := by
      rw [t.length_rowAt]
      exact (List.getElem?_eq_some_iff.mp ht).1
    have hleft : ((t.writeCell row column v).rowAt i)[column]? =
        some ((target.write row v).values.getD i .null) := by
      simp [rowAt, Table.writeCell, ht]
    have hright : (t.rowAt i)[column]? = some (target.values.getD i .null) := by
      simp [rowAt, ht]
    rw [hleft, hvalues, List.getD_eq_getElem?_getD, List.getElem?_set, hc.length]
    by_cases hi : row = i
    · rw [if_pos hi, if_pos hi, List.getElem?_set_self hw, if_pos hr]
      rfl
    · rw [if_neg hi, if_neg hi, hright, List.getD_eq_getElem?_getD]
  · have hleft : ((t.writeCell row column v).rowAt i)[j]? = (t.rowAt i)[j]? := by
      simp [rowAt, Table.writeCell, hj]
    rw [hleft]
    split
    · rw [List.getElem?_set_ne hj]
    · rfl

theorem Sound.rows_writeCell (h : t.Sound) {row column : Nat} {v : Value} {target : Column}
    (hr : row < t.rowCount) (ht : t.columns[column]? = some target)
    (ha : target.field.refusal v = none) :
    (t.writeCell row column v).rows = t.rows.set row ((t.rowAt row).set column v) := by
  apply (h.writeCell hr ht ha).rows_ext
  · rw [List.length_set, h.length_rows]
    rfl
  · intro i hi
    have hn : i < t.rowCount := hi
    rw [rowAt_writeCell h hr ht ha, List.getElem?_set, h.length_rows]
    by_cases hri : row = i
    · subst hri
      rw [if_pos rfl, if_pos hr, if_pos rfl]
    · rw [if_neg hri, if_neg hri, h.getElem?_rows_of_lt hn]

theorem Sound.delete (h : t.Sound) (row : Nat) : (t.delete row).Sound := by
  unfold Table.delete
  split
  · rename_i hr
    refine ⟨?_, h.ordered, ?_⟩
    · intro c hc
      obtain ⟨old, ho, rfl⟩ := List.mem_map.mp hc
      exact (h.columns old ho).remove hr
    · intro i hi
      have := h.bounded i hi
      simpa [width] using this
  · exact h

theorem rowAt_delete (h : t.Sound) {row : Nat} (hr : row < t.rowCount) (i : Nat) :
    (t.delete row).rowAt i = if i < row then t.rowAt i else t.rowAt (i + 1) := by
  have hvalue : ∀ c ∈ t.columns, (c.remove row).values.getD i .null =
      if i < row then c.values.getD i .null else c.values.getD (i + 1) .null := by
    intro c hc
    rw [Column.values_remove (h.columns c hc)]
    simp only [List.getD_eq_getElem?_getD, List.getElem?_eraseIdx]
    split <;> rfl
  simp only [Table.delete, hr, ↓reduceIte, rowAt, List.map_map]
  by_cases hi : i < row
  · rw [if_pos hi]
    apply List.map_congr_left
    intro c hc
    simpa [hi] using hvalue c hc
  · rw [if_neg hi]
    apply List.map_congr_left
    intro c hc
    simpa [hi] using hvalue c hc

theorem Sound.rows_delete (h : t.Sound) (row : Nat) :
    (t.delete row).rows = t.rows.eraseIdx row := by
  by_cases hr : row < t.rowCount
  · have hcount : (t.delete row).rowCount = t.rowCount - 1 := by simp [Table.delete, hr]
    apply (h.delete row).rows_ext
    · rw [List.length_eraseIdx, h.length_rows, if_pos hr, hcount]
    · intro i hi
      rw [hcount] at hi
      rw [rowAt_delete h hr, List.getElem?_eraseIdx]
      split
      · exact h.getElem?_rows_of_lt (by omega)
      · exact h.getElem?_rows_of_lt (by omega)
  · rw [List.eraseIdx_of_length_le (by rw [h.length_rows]; omega)]
    simp [Table.delete, hr]

theorem Sound.clear (h : t.Sound) : t.clear.Sound := by
  refine ⟨?_, h.ordered, ?_⟩
  · intro c hc
    obtain ⟨old, -, rfl⟩ := List.mem_map.mp hc
    exact old.sound_clear
  · intro i hi
    have := h.bounded i hi
    simpa [Table.clear, width] using this

theorem rows_clear (t : Table) : t.clear.rows = [] := rfl

theorem Sound.rename (h : t.Sound) (name : String) : (t.rename name).Sound :=
  ⟨h.columns, h.ordered, h.bounded⟩

end Table

end Tabular
