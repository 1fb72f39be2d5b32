import Tabular.Proofs.Table.Sound

namespace Tabular

/-- A result on tables is a sound one that the result on sheets shows, error for error. -/
def Table.Matches (result : Except Error Table) (expected : Except Error Sheet) : Prop :=
  match result with
  | .ok t => t.Sound ∧ expected = .ok t.sheet
  | .error e => expected = .error e

namespace Table

variable {t : Table}

theorem agree_iff (key : List Nat) (a b : Row) :
    Row.agree key a b = true ↔ Row.Agree key.toFinset a b := by
  simp [Row.agree, Row.Agree]

theorem Sound.sort_key (h : t.Sound) : t.key.toFinset.sort (· ≤ ·) = t.key := by
  apply (List.toFinset_sort (· ≤ ·) (h.ordered.imp Nat.ne_of_lt)).mpr
  exact h.ordered.imp Nat.le_of_lt

/-- A row conflicts with those that stand elsewhere and agree with it on a key. -/
theorem Sound.conflicts_iff (h : t.Sound) (row : Row) (skip : Option Nat) :
    t.conflicts row skip = true ↔ t.sheet.key.Nonempty ∧
      ∃ i other, skip ≠ some i ∧ t.rows[i]? = some other ∧ Row.Agree t.sheet.key row other := by
  have hkey : (!t.key.isEmpty) = true ↔ t.sheet.key.Nonempty := by
    cases hk : t.key <;> simp [sheet, hk]
  unfold conflicts
  rw [Bool.and_eq_true, hkey, List.any_eq_true]
  apply and_congr_right
  intro _
  constructor
  · rintro ⟨i, -, hi⟩
    rw [Bool.and_eq_true, Option.any_eq_true] at hi
    obtain ⟨hs, other, ho, ha⟩ := hi
    rw [← h.getElem?_rows] at ho
    exact ⟨i, other, by simpa using hs, ho, (agree_iff t.key row other).mp ha⟩
  · rintro ⟨i, other, hs, ho, ha⟩
    have hi : i < t.rowCount := by
      rw [← h.length_rows]
      exact (List.getElem?_eq_some_iff.mp ho).1
    refine ⟨i, List.mem_range.mpr hi, ?_⟩
    rw [Bool.and_eq_true, Option.any_eq_true, ← h.getElem?_rows]
    exact ⟨by simpa using hs, other, ho, (agree_iff t.key row other).mpr ha⟩

theorem Sound.conflicts_none_iff (h : t.Sound) (row : Row) :
    t.conflicts row none = true ↔
      t.sheet.key.Nonempty ∧ ∃ stored ∈ t.sheet.rows, Row.Agree t.sheet.key row stored := by
  rw [h.conflicts_iff]
  apply and_congr_right
  intro _
  constructor
  · rintro ⟨i, other, -, ho, ha⟩
    exact ⟨other, List.mem_of_getElem? ho, ha⟩
  · rintro ⟨stored, hs, ha⟩
    obtain ⟨i, hi⟩ := List.mem_iff_getElem?.mp hs
    exact ⟨i, stored, nofun, hi, ha⟩

theorem Sound.conflicts_some_iff (h : t.Sound) (row : Row) (skip : Nat) :
    t.conflicts row (some skip) = true ↔ t.sheet.key.Nonempty ∧
      ∃ other ∈ t.sheet.rows.eraseIdx skip, Row.Agree t.sheet.key row other := by
  rw [h.conflicts_iff]
  apply and_congr_right
  intro _
  constructor
  · rintro ⟨i, other, hs, ho, ha⟩
    exact ⟨other, List.mem_eraseIdx_iff_getElem?.mpr ⟨i, fun he => hs (he ▸ rfl), ho⟩, ha⟩
  · rintro ⟨other, ho, ha⟩
    obtain ⟨i, hi, ho⟩ := List.mem_eraseIdx_iff_getElem?.mp ho
    exact ⟨i, other, fun he => hi (Option.some.inj he).symm, ho, ha⟩

theorem Sound.keyConflict_eq (h : t.Sound) (row : Row) :
    t.keyConflict row = t.sheet.duplicate row := by
  unfold keyConflict Sheet.duplicate
  rw [show t.sheet.key.sort (· ≤ ·) = t.key from h.sort_key]
  simp [sheet, schema, Function.comp_def]

theorem mem_insertIndex {i index : Nat} {key : List Nat} :
    i ∈ insertIndex index key ↔ i = index ∨ i ∈ key := by
  induction key with
  | nil => simp [insertIndex]
  | cons head rest ih =>
    unfold insertIndex
    split
    · simp
    · split
      · rename_i he
        simp [he]
      · simp only [List.mem_cons, ih]
        exact or_left_comm

theorem pairwise_insertIndex {index : Nat} {key : List Nat} (h : key.Pairwise (· < ·)) :
    (insertIndex index key).Pairwise (· < ·) := by
  induction key with
  | nil => simp [insertIndex]
  | cons head rest ih =>
    obtain ⟨hlt, hrest⟩ := List.pairwise_cons.mp h
    unfold insertIndex
    split
    · rename_i hi
      refine List.pairwise_cons.mpr ⟨?_, h⟩
      intro i hm
      rcases List.mem_cons.mp hm with rfl | hm
      · exact hi
      · exact Nat.lt_trans hi (hlt i hm)
    · split
      · exact h
      · refine List.pairwise_cons.mpr ⟨?_, ih hrest⟩
        intro i hm
        rcases mem_insertIndex.mp hm with rfl | hm
        · omega
        · exact hlt i hm

theorem pairwise_foldr_insertIndex (indices : List Nat) :
    (indices.foldr insertIndex []).Pairwise (· < ·) := by
  induction indices with
  | nil => exact List.Pairwise.nil
  | cons index rest ih => exact pairwise_insertIndex ih

theorem toFinset_foldr_insertIndex (indices : List Nat) :
    (indices.foldr insertIndex []).toFinset = indices.toFinset := by
  induction indices with
  | nil => rfl
  | cons index rest ih =>
    ext i
    have hi : i ∈ (rest.foldr insertIndex []) ↔ i ∈ rest := by
      simpa using congrArg (i ∈ ·) ih
    simp [mem_insertIndex, hi]

theorem foldr_insertIndex (indices : List Nat) :
    indices.foldr insertIndex [] = indices.toFinset.sort (· ≤ ·) := by
  have hp := pairwise_foldr_insertIndex indices
  rw [← toFinset_foldr_insertIndex indices]
  exact ((List.toFinset_sort (· ≤ ·) (hp.imp Nat.ne_of_lt)).mpr (hp.imp Nat.le_of_lt)).symm

theorem Sound.setKey (h : t.Sound) (indices : List Nat) :
    Matches (t.setKey indices) (t.sheet.setKey indices) := by
  have hw : t.sheet.schema.length = t.width := t.length_schema
  unfold Table.setKey Sheet.setKey
  dsimp only
  rw [foldr_insertIndex, hw]
  cases hf : (indices.toFinset.sort (· ≤ ·)).find? (t.width ≤ ·) with
  | some bad => rfl
  | none =>
    refine ⟨⟨h.columns, ?_, ?_⟩, ?_⟩
    · rw [← foldr_insertIndex]
      exact pairwise_foldr_insertIndex indices
    · intro i hi
      have hlt : i < t.width := by simpa using List.find?_eq_none.mp hf i hi
      exact hlt
    · have hs : ({ t with key := indices.toFinset.sort (· ≤ ·) } : Table).sheet =
          { t.sheet with key := (indices.toFinset.sort (· ≤ ·)).toFinset } := rfl
      rw [hs, Finset.sort_toFinset]

theorem place_eq (t : Table) (name : String) :
    (do return (← t.schema.resolve name).val : Except Error Nat) = t.sheet.place name := by
  have hplace : t.sheet.schema.findIdx? (·.name == name) =
      (t.schema.findFinIdx? (·.name == name)).map (·.val) := List.findIdx?_eq_map_findFinIdx?_val
  unfold Schema.resolve Sheet.place
  rw [hplace]
  cases t.schema.findFinIdx? (·.name == name) <;> rfl

theorem Sound.setKeyByName (h : t.Sound) (names : List String) :
    Matches (t.setKeyByName names) (t.sheet.setKeyByName names) := by
  unfold Table.setKeyByName Sheet.setKeyByName
  simp only [place_eq]
  cases names.mapM t.sheet.place with
  | error e => rfl
  | ok indices => exact h.setKey indices

theorem Sound.sheet_addColumn (h : t.Sound) (field : Field) :
    (t.addColumn field).sheet = t.sheet.addColumn field := by
  have hs : (t.addColumn field).schema = t.schema ++ [field] := by
    simp [schema, Table.addColumn, Column.ofNulls]
  unfold sheet Sheet.addColumn
  rw [h.rows_addColumn, hs]
  rfl

theorem Sound.declareColumn (h : t.Sound) (typeText name : String) :
    Matches (t.declareColumn typeText name) (t.sheet.declareColumn typeText name) := by
  unfold Table.declareColumn Sheet.declareColumn Kind.ofText
  cases Kind.ofText? typeText with
  | none => rfl
  | some kind => exact ⟨h.addColumn ⟨name, kind⟩, congrArg _ (h.sheet_addColumn ⟨name, kind⟩).symm⟩

theorem findSome?_refusal (t : Table) (row : Row) :
    (t.schema.zip row).findSome? (fun (field, v) => field.refusal v) =
      (t.columns.zip row).findSome? fun (c, v) => c.field.refusal v := by
  have hz : t.schema.zip row = (t.columns.zip row).map fun p => (p.1.field, p.2) := by
    change (t.columns.map Column.field).zip row = _
    rw [List.zip_map_left]
    rfl
  rw [hz, List.findSome?_map]
  rfl

theorem insert_eq (t : Table) (row : Row) :
    t.insert row =
      if t.width < row.length then .error (.columnCount t.width row.length)
      else match (t.columns.zip (row.align t.width)).findSome? fun (c, v) => c.field.refusal v with
        | some e => .error e
        | none =>
          if t.conflicts (row.align t.width) none then
            .error (t.keyConflict (row.align t.width))
          else .ok (t.appendRow (row.align t.width)) := by
  have hm : (t.columns.zip (row.align t.width)).mapM (fun (c, v) => Column.push c v) =
      checked ((t.columns.zip (row.align t.width)).findSome? fun (c, v) => c.field.refusal v)
        (t.appendRow (row.align t.width)).columns :=
    mapM_checked (fun p => p.1.push_eq p.2) _
  unfold insert
  dsimp only
  rw [hm]
  split
  · rfl
  · cases (t.columns.zip (row.align t.width)).findSome? fun (c, v) => c.field.refusal v with
    | some e => rfl
    | none => cases t.conflicts (row.align t.width) none <;> rfl

theorem length_align {row : Row} {width : Nat} (h : row.length ≤ width) :
    (row.align width).length = width := by
  simp only [Row.align, Row.nulls, List.length_append, List.length_replicate]
  omega

theorem insert_eq_ok {t' : Table} {row : Row} (h : t.insert row = .ok t') :
    row.length ≤ t.width ∧ t' = t.appendRow (row.align t.width) := by
  rw [insert_eq] at h
  split at h
  · cases h
  · rename_i hw
    split at h
    · cases h
    · split at h
      · cases h
      · cases h
        exact ⟨Nat.le_of_not_lt hw, rfl⟩

theorem schema_insert {t' : Table} {row : Row} (h : t.insert row = .ok t') :
    t'.schema = t.schema := by
  obtain ⟨hw, rfl⟩ := insert_eq_ok h
  exact schema_appendRow t (length_align hw)

theorem Sound.insert (h : t.Sound) (row : Row) :
    Matches (t.insert row) (t.sheet.insert row) := by
  have hlen : t.sheet.schema.length = t.width := t.length_schema
  have hfill : row ++ List.replicate (t.width - row.length) .null = row.align t.width := rfl
  have href : (t.sheet.schema.zip (row.align t.width)).findSome?
      (fun (field, v) => field.refusal v) = _ := t.findSome?_refusal (row.align t.width)
  rw [insert_eq]
  unfold Sheet.insert
  dsimp only
  rw [hlen, hfill, href]
  by_cases hw : t.width < row.length
  · rw [if_pos hw, if_pos hw]
    rfl
  rw [if_neg hw, if_neg hw]
  cases hr : (t.columns.zip (row.align t.width)).findSome? fun (c, v) => c.field.refusal v with
  | some e => rfl
  | none =>
    have ha : ∀ p ∈ t.columns.zip (row.align t.width), p.1.field.refusal p.2 = none :=
      List.findSome?_eq_none_iff.mp hr
    have hl : (row.align t.width).length = t.width := length_align (Nat.le_of_not_lt hw)
    dsimp only
    by_cases hc : t.conflicts (row.align t.width) none = true
    · rw [if_pos hc, if_pos ((h.conflicts_none_iff _).mp hc), h.keyConflict_eq]
      rfl
    · rw [if_neg hc, if_neg (fun hs => hc ((h.conflicts_none_iff _).mpr hs))]
      refine ⟨h.appendRow hl ha, ?_⟩
      unfold sheet
      rw [h.rows_appendRow hl ha, schema_appendRow t hl]
      rfl

theorem update_eq (t : Table) (row column : Nat) (v : Value) (h : t.Sound) :
    t.update row column v =
      if row < t.rowCount then match t.columns[column]? with
        | none => .error (t.noColumn column)
        | some target => match target.field.refusal v with
          | some e => .error e
          | none =>
            if t.key.contains column && t.conflicts ((t.rowAt row).set column v) (some row) then
              .error (t.keyConflict ((t.rowAt row).set column v))
            else .ok (t.writeCell row column v)
      else .error (.missing (.rowAt row t.name)) := by
  unfold update
  rw [h.row?_eq]
  by_cases hr : row < t.rowCount
  · rw [if_pos hr, if_pos hr]
    cases ht : t.columns[column]? with
    | none => rfl
    | some target =>
      have hsize : row < target.size := by
        rw [Column.size, (h.columns target (List.mem_of_getElem? ht)).nulls]
        exact hr
      dsimp only
      rw [target.set_eq, if_pos hsize]
      cases target.field.refusal v with
      | some e => rfl
      | none =>
        have hset : t.columns.modify column (·.write row v) =
            t.columns.set column (target.write row v) := by
          rw [List.modify_eq_set_getElem?, ht]
          rfl
        unfold writeCell
        rw [hset]
        cases t.key.contains column && t.conflicts ((t.rowAt row).set column v) (some row) <;> rfl
  · rw [if_neg hr, if_neg hr]
    rfl

theorem Sound.update (h : t.Sound) (row column : Nat) (v : Value) :
    Matches (t.update row column v) (t.sheet.update row column v) := by
  rw [update_eq t row column v h]
  unfold Sheet.update
  have hrow : t.sheet.rows[row]? = if row < t.rowCount then some (t.rowAt row) else none :=
    (h.getElem?_rows row).trans (h.row?_eq row)
  rw [hrow]
  by_cases hr : row < t.rowCount
  · have hfield : t.sheet.schema[column]? = t.columns[column]?.map Column.field :=
      List.getElem?_map
    rw [if_pos hr, if_pos hr]
    dsimp only
    rw [hfield]
    cases ht : t.columns[column]? with
    | none => rfl
    | some target =>
      dsimp only [Option.map_some]
      cases ha : target.field.refusal v with
      | some e => rfl
      | none =>
        dsimp only
        have hkey : (t.key.contains column && t.conflicts ((t.rowAt row).set column v) (some row)) =
            true ↔ column ∈ t.sheet.key ∧
              ∃ other ∈ t.sheet.rows.eraseIdx row,
                Row.Agree t.sheet.key ((t.rowAt row).set column v) other := by
          rw [Bool.and_eq_true, h.conflicts_some_iff]
          constructor
          · rintro ⟨hm, -, hs⟩
            exact ⟨by simpa [sheet] using hm, hs⟩
          · rintro ⟨hm, hs⟩
            exact ⟨by simpa [sheet] using hm, ⟨column, hm⟩, hs⟩
        by_cases hc : (t.key.contains column &&
            t.conflicts ((t.rowAt row).set column v) (some row)) = true
        · rw [if_pos hc, if_pos (hkey.mp hc), h.keyConflict_eq]
          rfl
        · rw [if_neg hc, if_neg (fun hs => hc (hkey.mpr hs))]
          refine ⟨h.writeCell hr ht ha, ?_⟩
          unfold sheet
          rw [h.rows_writeCell hr ht ha, schema_writeCell]
          rfl
  · rw [if_neg hr, if_neg hr]
    rfl

theorem Sound.sheet_delete (h : t.Sound) (row : Nat) :
    (t.delete row).sheet = t.sheet.delete row := by
  have hs : (t.delete row).schema = t.schema ∧ (t.delete row).name = t.name ∧
      (t.delete row).key = t.key := by
    unfold Table.delete
    split <;> simp [schema, Column.remove]
  unfold sheet Sheet.delete
  rw [h.rows_delete, hs.1, hs.2.1, hs.2.2]

theorem sheet_clear (t : Table) : t.clear.sheet = t.sheet.clear := by
  have hs : t.clear.schema = t.schema := by simp [schema, Table.clear, Column.clear]
  unfold sheet Sheet.clear
  rw [rows_clear, hs]
  rfl

/-- One operation: the table answers as its sheet does, and stays sound. -/
theorem Sound.apply (h : t.Sound) (op : Operation) : Matches (t.apply op) (t.sheet.apply op) := by
  cases op with
  | addColumn field => exact ⟨h.addColumn field, congrArg _ (h.sheet_addColumn field).symm⟩
  | declareColumn typeText name => exact h.declareColumn typeText name
  | setKey indices => exact h.setKey indices
  | setKeyByName names => exact h.setKeyByName names
  | insert row => exact h.insert row
  | update row column v => exact h.update row column v
  | delete row => exact ⟨h.delete row, congrArg _ (h.sheet_delete row).symm⟩
  | clear => exact ⟨h.clear, congrArg _ t.sheet_clear.symm⟩
  | rename name => exact ⟨h.rename name, rfl⟩

theorem Sound.replay (h : t.Sound) (ops : List Operation) :
    (replay Table.apply t ops).1.Sound ∧
      replay Sheet.apply t.sheet ops =
        ((replay Table.apply t ops).1.sheet, (replay Table.apply t ops).2) := by
  induction ops generalizing t with
  | nil => exact ⟨h, rfl⟩
  | cons op rest ih =>
    have hm := h.apply op
    unfold Tabular.replay
    cases hr : t.apply op with
    | error e =>
      rw [hr] at hm
      rw [show t.sheet.apply op = .error e from hm]
      refine ⟨(ih h).1, ?_⟩
      dsimp only
      rw [(ih h).2]
    | ok next =>
      rw [hr] at hm
      rw [show t.sheet.apply op = .ok next.sheet from hm.2]
      refine ⟨(ih hm.1).1, ?_⟩
      dsimp only
      rw [(ih hm.1).2]

/-- After any operations on a new table its answers have been those of a plain list of rows, and so
is everything that it shows. -/
theorem replay_eq_sheet (name : String) (ops : List Operation) :
    let concrete := Tabular.replay Table.apply (.empty name) ops
    let abstract := Tabular.replay Sheet.apply (.empty name) ops
    concrete.2 = abstract.2 ∧
      concrete.1.name = abstract.1.name ∧
      concrete.1.schema = abstract.1.schema ∧
      concrete.1.key = abstract.1.key.sort (· ≤ ·) ∧
      concrete.1.rowCount = abstract.1.rows.length ∧
      (∀ i, concrete.1.row? i = abstract.1.rows[i]?) ∧
      concrete.1.rows = abstract.1.rows := by
  intro concrete abstract
  obtain ⟨hsound, heq⟩ := (sound_empty name).replay ops
  have ha : abstract = (concrete.1.sheet, concrete.2) := heq
  rw [ha]
  refine ⟨rfl, rfl, rfl, hsound.sort_key.symm, hsound.length_rows.symm, ?_, rfl⟩
  intro i
  exact (hsound.getElem?_rows i).symm

end Table

end Tabular
