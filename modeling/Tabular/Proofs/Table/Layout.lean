import Tabular.Proofs.Table.Stored

namespace Tabular

theorem replaceAt_of_lt {as : Array α} {index : Nat} (h : index < as.size) (a : α) :
    replaceAt as index a = some (as.setIfInBounds index a) :=
  if_pos h

theorem eraseAt_of_lt {as : Array α} {index : Nat} (h : index < as.size) :
    eraseAt as index = some (as.eraseIdxIfInBounds index) :=
  if_pos h

/-- The state that a result on the whole leaves behind: the old one, if it is an error. -/
def leave (old : σ) : Except Error σ → Left σ
  | .ok new => (new, .ok ())
  | .error e => (old, .error e)

namespace Column

variable {c : Column} {n : Nat}

def stored (c : Column) : StoredColumn :=
  ⟨c.field, ⟨c.kind, c.cells⟩, c.nulls⟩

theorem stored_ofNulls (field : Field) (count : Nat) :
    (ofNulls field.name field.kind count).stored = .ofNulls field count := by
  unfold StoredColumn.ofNulls
  induction count with
  | zero => rfl
  | succ count ih =>
    rw [Function.iterate_succ_apply', ← ih]
    simp [StoredColumn.pushNull, stored, ofNulls, Array.replicate_succ, Column.field]

/-- A column that takes the value finds a cell of its own kind for it. -/
theorem push_stored (c : Column) (v : Value) :
    c.stored.push v = some (leave c.stored ((c.push v).map stored)) := by
  have hfield : c.stored.field = c.field := rfl
  rw [push_eq]
  unfold StoredColumn.push
  rw [hfield]
  cases hr : c.field.refusal v with
  | some e => rfl
  | none =>
    have hnull := isNull_of_accepted hr
    have hcell : v.cell? c.stored.storage.kind = v.cell? c.kind := rfl
    dsimp only
    rw [hnull, hcell]
    unfold append
    rw [hnull]
    cases v.cell? c.kind <;> rfl

theorem Sound.get_stored (h : c.Sound n) (index : Nat) :
    c.stored.get index = some (c.get? index) := by
  change (if c.nulls.size ≤ index then some none else (c.nulls[index]?).bind fun null =>
    if null then some (some Value.null)
    else (c.cells[index]?).bind fun content => some (some (Value.ofCell c.kind content))) = _
  have hget := get?_mk c.name c.kind c.cells c.nulls index
  by_cases hi : c.nulls.size ≤ index
  · rw [Array.getElem?_eq_none hi] at hget
    rw [if_pos hi, hget]
    rfl
  · have hn : index < c.nulls.size := Nat.lt_of_not_le hi
    have hc : index < c.cells.size := by rw [h.aligned]; exact hn
    rw [Array.getElem?_eq_getElem hn, Array.getElem?_eq_getElem hc] at hget
    rw [if_neg hi, Array.getElem?_eq_getElem hn, Array.getElem?_eq_getElem hc, hget]
    cases c.nulls[index] <;> rfl

theorem Sound.set_stored (h : c.Sound n) (index : Nat) (v : Value) :
    c.stored.set index v = some (leave c.stored ((c.set index v).map stored)) := by
  have hfield : c.stored.field = c.field := rfl
  have hsize : c.stored.nulls.size = c.size := rfl
  rw [set_eq]
  unfold StoredColumn.set
  rw [hfield, hsize]
  by_cases hi : c.size ≤ index
  · rw [if_pos hi, if_neg (Nat.not_lt.mpr hi)]
    rfl
  · have hn : index < c.size := Nat.lt_of_not_le hi
    have hc : index < c.cells.size := by rw [h.aligned]; exact hn
    rw [if_neg hi, if_pos hn]
    cases hr : c.field.refusal v with
    | some e => rfl
    | none =>
      have hnull := isNull_of_accepted hr
      have hcell : v.cell? c.stored.storage.kind = v.cell? c.kind := rfl
      have hnulls : ∀ null, replaceAt c.stored.nulls index null =
          some (c.nulls.setIfInBounds index null) := replaceAt_of_lt hn
      have hcells : ∀ content, replaceAt c.stored.storage.cells index content =
          some (c.cells.setIfInBounds index content) := replaceAt_of_lt hc
      dsimp only
      rw [hnull, hcell, hnulls, hnulls]
      simp only [hcells]
      unfold Column.write
      rw [hnull]
      cases v.cell? c.kind <;> rfl

theorem Sound.remove_stored (h : c.Sound n) {index : Nat} (hi : index < n) :
    c.stored.remove index = some (c.remove index).stored := by
  have hn : index < c.stored.nulls.size := by
    rw [show c.stored.nulls.size = n from h.nulls]
    exact hi
  have hc : index < c.stored.storage.cells.size := by
    rw [show c.stored.storage.cells.size = n from h.cells]
    exact hi
  unfold StoredColumn.remove
  rw [if_neg (Nat.not_le.mpr hn), eraseAt_of_lt hn, eraseAt_of_lt hc]
  rfl

end Column

/-- Columns that all accept their values are all left with them. -/
theorem pushEach_stored {columns : List Column} {row : Row} (hl : row.length = columns.length)
    (h : ∀ p ∈ columns.zip row, p.1.field.refusal p.2 = none) :
    StoredColumn.pushEach (columns.map Column.stored) row =
      some (((columns.zip row).map fun (c, v) => c.append v).map Column.stored, .ok ()) := by
  induction columns generalizing row with
  | nil => rw [List.eq_nil_of_length_eq_zero hl]; rfl
  | cons c columns ih =>
    cases row with
    | nil => cases hl
    | cons v row =>
      obtain ⟨hfirst, hrest⟩ := List.forall_mem_cons.mp h
      have hpush : c.stored.push v = some ((c.append v).stored, .ok ()) := by
        rw [c.push_stored, c.push_eq, hfirst]
        rfl
      rw [List.map_cons, StoredColumn.pushEach, hpush]
      dsimp only [bind, Option.bind]
      rw [ih (Nat.succ.inj hl) hrest]
      rfl

theorem allM_some_of_forall {f : α → Option Bool} {g : α → Bool} {l : List α}
    (h : ∀ a ∈ l, f a = some (g a)) : l.allM f = some (l.all g) := by
  induction l with
  | nil => rfl
  | cons a l ih =>
    obtain ⟨ha, hl⟩ := List.forall_mem_cons.mp h
    rw [List.allM, ha, List.all_cons]
    cases g a with
    | false => rfl
    | true => exact ih hl

theorem findM?_some_of_forall {α : Type} {f : α → Option Bool} {g : α → Bool} {l : List α}
    (h : ∀ a ∈ l, f a = some (g a)) : l.findM? f = some (l.find? g) := by
  induction l with
  | nil => rfl
  | cons a l ih =>
    obtain ⟨ha, hl⟩ := List.forall_mem_cons.mp h
    rw [List.findM?, ha, List.find?_cons]
    cases g a with
    | true => rfl
    | false => exact ih hl

namespace Table

variable {t : Table}

def stored (t : Table) : StoredTable :=
  ⟨t.name, t.schema, t.columns.map Column.stored, t.key, t.rowCount⟩

theorem stored_addColumn (t : Table) (field : Field) :
    (t.addColumn field).stored = t.stored.addColumn field := by
  unfold stored StoredTable.addColumn addColumn
  rw [← Column.stored_ofNulls field t.rowCount]
  simp [schema, Column.ofNulls]

theorem stored_ofSchema (name : String) (schema : Schema) :
    (ofSchema name schema).stored = .ofSchema name schema := by
  have hfrom : ∀ t : Table, (schema.foldl addColumn t).stored =
      schema.foldl StoredTable.addColumn t.stored := by
    induction schema with
    | nil => exact fun _ => rfl
    | cons field rest ih =>
      intro t
      rw [List.foldl_cons, List.foldl_cons, ih, stored_addColumn]
  exact hfrom (empty name)

theorem setKey_stored (t : Table) (indices : List Nat) :
    t.stored.setKey indices = leave t.stored ((t.setKey indices).map stored) := by
  have hlength : t.stored.schema.length = t.width := t.length_schema
  unfold StoredTable.setKey setKey
  rw [hlength]
  dsimp only
  cases (indices.foldr insertIndex []).find? (t.width ≤ ·) <;> rfl

theorem setKeyByName_stored (t : Table) (names : List String) :
    t.stored.setKeyByName names = leave t.stored ((t.setKeyByName names).map stored) := by
  have hschema : t.stored.schema = t.schema := rfl
  unfold StoredTable.setKeyByName setKeyByName
  rw [hschema]
  cases names.mapM fun name => do return (← t.schema.resolve name).val with
  | error e => rfl
  | ok indices => exact t.setKey_stored indices

theorem declareColumn_stored (t : Table) (typeText name : String) :
    t.stored.declareColumn typeText name =
      leave t.stored ((t.declareColumn typeText name).map stored) := by
  unfold StoredTable.declareColumn declareColumn
  cases Kind.ofText typeText with
  | error e => rfl
  | ok kind =>
    change (_, _) = (_, _)
    rw [stored_addColumn]

theorem Sound.row_stored (h : t.Sound) (index : Nat) :
    t.stored.row index = some (t.row? index) := by
  have hcolumns : t.stored.columns.mapM (·.get index) =
      some (t.columns.map (·.get? index)) := by
    have hget := mapM_some_of_forall fun c hc => (h.columns c hc).get_stored index
    rw [← hget]
    exact List.mapM_map
  unfold StoredTable.row row?
  rw [hcolumns]
  by_cases hi : index < t.rowCount
  · have hin : ¬ t.stored.rowCount ≤ index := Nat.not_le.mpr hi
    rw [if_neg hin, if_pos hi]
    change some ((t.columns.map (·.get? index)).mapM id) = _
    rw [List.mapM_map]
    rfl
  · have hout : t.stored.rowCount ≤ index := Nat.le_of_not_lt hi
    rw [if_pos hout, if_neg hi]

theorem Sound.rows_stored (h : t.Sound) : t.stored.rows = some t.rows := by
  have hrows : (List.range t.rowCount).mapM t.stored.row =
      some ((List.range t.rowCount).map t.row?) :=
    mapM_some_of_forall fun index _ => h.row_stored index
  unfold StoredTable.rows
  change ((List.range t.rowCount).mapM t.stored.row).bind _ = _
  rw [hrows]
  change some (((List.range t.rowCount).map t.row?).filterMap id) = _
  rw [List.filterMap_map]
  rfl

/-- A stored row and a candidate are compared cell by cell, and each of the cells is there. -/
theorem Sound.agrees_stored (h : t.Sound) {candidate : Row} (hl : candidate.length = t.width)
    {index : Nat} (hi : index < t.rowCount) :
    t.stored.agrees candidate index = some (Row.agree t.key candidate (t.rowAt index)) := by
  apply allM_some_of_forall
  intro place hplace
  have hw : place < t.columns.length := h.bounded place hplace
  have hc := h.columns _ (List.getElem_mem hw)
  have hcolumn : t.stored.columns[place]? = some (t.columns[place]).stored := by
    simp [stored, hw]
  have hget : (t.columns[place]).stored.get index = some (some ((t.rowAt index).value place)) := by
    rw [hc.get_stored, ← Column.getElem?_values hc.aligned]
    simp [Row.value, rowAt, hw, List.getD_eq_getElem?_getD, hc.length, hi]
  have hcandidate : candidate[place]? = some (candidate.value place) := by
    have hlt : place < candidate.length := by rw [hl]; exact hw
    simp [Row.value, hlt]
  rw [hcolumn]
  change ((t.columns[place]).stored.get index).bind _ = _
  rw [hget, hcandidate]
  exact congrArg some (Value.same_comm _ _)

theorem Sound.conflictingRow_stored (h : t.Sound) {candidate : Row}
    (hl : candidate.length = t.width) (skip : Option Nat) :
    ∃ found, t.stored.conflictingRow candidate skip = some found ∧
      found.isSome = t.conflicts candidate skip := by
  have hkey : t.stored.key = t.key := rfl
  unfold StoredTable.conflictingRow conflicts
  rw [hkey]
  cases t.key.isEmpty with
  | true => exact ⟨none, rfl, rfl⟩
  | false =>
    refine ⟨_, findM?_some_of_forall fun index hm => h.agrees_stored hl ?_, ?_⟩
    · exact List.mem_range.mp (List.mem_of_mem_filter hm)
    · rw [Bool.eq_iff_iff, List.find?_isSome]
      simp only [Bool.not_false, Bool.true_and, List.any_eq_true, List.mem_filter, Bool.and_eq_true]
      constructor
      · rintro ⟨index, ⟨hm, hskip⟩, hagree⟩
        have hi : index < t.rowCount := List.mem_range.mp hm
        refine ⟨index, hm, hskip, ?_⟩
        rw [h.row?_eq, if_pos hi]
        exact hagree
      · rintro ⟨index, hm, hskip, hagree⟩
        have hi : index < t.rowCount := List.mem_range.mp hm
        rw [h.row?_eq, if_pos hi] at hagree
        exact ⟨index, ⟨hm, hskip⟩, hagree⟩

theorem Sound.keyConflict_stored (h : t.Sound) (values : Row) :
    t.stored.keyConflict values = some (t.keyConflict values) := by
  have hfields : ∀ key : List Nat, (∀ place ∈ key, place < t.columns.length) →
      (key.mapM fun place => do
        let field ← t.stored.schema[place]?
        return (field.name, values.value place)) =
      some (key.filterMap fun place =>
        t.columns[place]?.map fun column => (column.name, values.value place)) := by
    intro key hkey
    induction key with
    | nil => rfl
    | cons place key ih =>
      obtain ⟨hplace, hrest⟩ := List.forall_mem_cons.mp hkey
      have hfield : t.stored.schema[place]? = some (t.columns[place]).field := by
        simp [stored, schema, hplace, Column.field]
      rw [List.mapM_cons, ih hrest, hfield, List.filterMap_cons, List.getElem?_eq_getElem hplace]
      rfl
  unfold StoredTable.keyConflict
  rw [show t.stored.key = t.key from rfl, hfields t.key h.bounded]
  rfl

theorem findSome?_refusal_stored (t : Table) (row : Row) :
    (t.stored.columns.zip row).findSome? (fun (c, v) => c.field.refusal v) =
      (t.columns.zip row).findSome? fun (c, v) => c.field.refusal v := by
  have hzip : t.stored.columns.zip row =
      (t.columns.zip row).map fun p => (p.1.stored, p.2) := List.zip_map_left
  rw [hzip, List.findSome?_map]
  rfl

/-- The values find their places all together, so that no column is left behind. -/
theorem Sound.insert_stored (h : t.Sound) (row : Row) :
    t.stored.insert row = some (leave t.stored ((t.insert row).map stored)) := by
  have hwidth : t.stored.schema.length = t.width := t.length_schema
  rw [insert_eq]
  unfold StoredTable.insert
  dsimp only
  rw [hwidth, findSome?_refusal_stored]
  by_cases hw : t.width < row.length
  · rw [if_pos hw, if_pos hw]
    rfl
  rw [if_neg hw, if_neg hw]
  have hl : (row.align t.width).length = t.width := length_align (Nat.le_of_not_lt hw)
  cases hr : (t.columns.zip (row.align t.width)).findSome? fun (c, v) => c.field.refusal v with
  | some e => rfl
  | none =>
    have ha : ∀ p ∈ t.columns.zip (row.align t.width), p.1.field.refusal p.2 = none :=
      List.findSome?_eq_none_iff.mp hr
    obtain ⟨found, hfound, hsome⟩ := h.conflictingRow_stored hl none
    dsimp only
    rw [hfound, ← hsome]
    cases found with
    | some index =>
      rw [h.keyConflict_stored]
      rfl
    | none =>
      have hpush : StoredColumn.pushEach t.stored.columns (row.align t.width) =
          some ((t.appendRow (row.align t.width)).stored.columns, .ok ()) :=
        pushEach_stored hl ha
      have hleft : (t.appendRow (row.align t.width)).stored =
          { t.stored with
            columns := (t.appendRow (row.align t.width)).stored.columns
            rowCount := t.rowCount + 1 } := by
        unfold stored
        rw [schema_appendRow t hl]
        rfl
      rw [hpush]
      change some (_, _) = some ((t.appendRow (row.align t.width)).stored, _)
      rw [hleft]
      rfl

theorem Sound.setCell_stored (h : t.Sound) {row column : Nat} {v : Value} {target : Column}
    (hr : row < t.rowCount) (ht : t.columns[column]? = some target)
    (ha : target.field.refusal v = none) :
    t.stored.setCell row column v = some ((t.writeCell row column v).stored, .ok ()) := by
  have hc := h.columns target (List.mem_of_getElem? ht)
  have htarget : t.stored.columns[column]? = some target.stored := by
    simp [stored, ht]
  have hset : target.stored.set row v = some ((target.write row v).stored, .ok ()) := by
    have hsize : row < target.size := by
      rw [Column.size, hc.nulls]
      exact hr
    rw [hc.set_stored, target.set_eq, if_pos hsize, ha]
    rfl
  have hcolumns : (t.writeCell row column v).stored.columns =
      t.stored.columns.set column (target.write row v).stored := by
    change (t.columns.modify column (·.write row v)).map Column.stored = _
    rw [List.modify_eq_set_getElem?, ht]
    exact List.map_set
  have hleft : (t.writeCell row column v).stored =
      { t.stored with columns := (t.writeCell row column v).stored.columns } := by
    unfold stored
    rw [schema_writeCell]
    rfl
  unfold StoredTable.setCell
  rw [htarget]
  change (target.stored.set row v).bind _ = _
  rw [hset, hleft, hcolumns]
  rfl

/-- The row that is there is looked at as a whole, but only the one cell is written. -/
theorem Sound.update_stored (h : t.Sound) (row column : Nat) (v : Value) :
    t.stored.update row column v = some (leave t.stored ((t.update row column v).map stored)) := by
  rw [update_eq t row column v h]
  unfold StoredTable.update
  rw [h.row_stored, h.row?_eq]
  by_cases hr : row < t.rowCount
  · have hcolumn : t.stored.columns[column]? = t.columns[column]?.map Column.stored :=
      List.getElem?_map
    rw [if_pos hr, if_pos hr]
    dsimp only [bind, Option.bind]
    rw [hcolumn]
    cases ht : t.columns[column]? with
    | none => rfl
    | some target =>
      have hfield : target.stored.field = target.field := rfl
      dsimp only [Option.map_some]
      rw [hfield]
      cases ha : target.field.refusal v with
      | some e => rfl
      | none =>
        have hkey : t.stored.key = t.key := rfl
        dsimp only
        rw [hkey, h.setCell_stored hr ht ha]
        cases t.key.contains column with
        | false => rfl
        | true =>
          have hw : column < (t.rowAt row).length := by
            rw [t.length_rowAt]
            exact (List.getElem?_eq_some_iff.mp ht).1
          have hnew : (t.rowAt row).replace? column v = some ((t.rowAt row).set column v) :=
            if_pos hw
          have hl : ((t.rowAt row).set column v).length = t.width := by
            rw [List.length_set, t.length_rowAt]
          obtain ⟨found, hfound, hsome⟩ := h.conflictingRow_stored hl (some row)
          rw [hnew, if_pos rfl, ← hsome]
          dsimp only
          rw [hfound]
          cases found with
          | some index =>
            dsimp only
            rw [h.keyConflict_stored]
            rfl
          | none => rfl
  · rw [if_neg hr, if_neg hr]
    rfl

theorem Sound.delete_stored (h : t.Sound) (row : Nat) :
    t.stored.delete row = some (t.delete row).stored := by
  unfold StoredTable.delete Table.delete
  by_cases hr : row < t.rowCount
  · have hin : ¬ t.stored.rowCount ≤ row := Nat.not_le.mpr hr
    have hcolumns : t.stored.columns.mapM (·.remove row) =
        some (t.columns.map fun c => (c.remove row).stored) := by
      have hremove := mapM_some_of_forall fun c hc => (h.columns c hc).remove_stored hr
      rw [← hremove]
      exact List.mapM_map
    rw [if_neg hin, if_pos hr, hcolumns]
    simp [stored, schema, Column.remove]
  · have hout : t.stored.rowCount ≤ row := Nat.le_of_not_lt hr
    rw [if_pos hout, if_neg hr]

theorem stored_clear (t : Table) : t.clear.stored = t.stored.clear := by
  simp [stored, clear, StoredTable.clear, schema, Column.clear, Column.stored,
    StoredColumn.clear, Column.field]

/-- One operation on a stored table goes through and leaves what the operation on the table does. -/
theorem Sound.apply_stored (h : t.Sound) (op : Operation) :
    t.stored.apply op = some (leave t.stored ((t.apply op).map stored)) := by
  cases op with
  | addColumn field =>
    change _ = some ((t.addColumn field).stored, _)
    rw [stored_addColumn]
    rfl
  | declareColumn typeText name => exact congrArg some (t.declareColumn_stored typeText name)
  | setKey indices => exact congrArg some (t.setKey_stored indices)
  | setKeyByName names => exact congrArg some (t.setKeyByName_stored names)
  | insert row => exact h.insert_stored row
  | update row column v => exact h.update_stored row column v
  | delete row =>
    change (t.stored.delete row).map _ = _
    rw [h.delete_stored]
    rfl
  | clear =>
    change _ = some (t.clear.stored, _)
    rw [stored_clear]
    rfl
  | rename name => rfl

theorem Sound.replay_stored (h : t.Sound) (ops : List Operation) :
    t.stored.replay ops = some ((Tabular.replay Table.apply t ops).1.stored,
      (Tabular.replay Table.apply t ops).2) := by
  induction ops generalizing t with
  | nil => rfl
  | cons op rest ih =>
    have hm := h.apply op
    simp only [StoredTable.replay, h.apply_stored op, Tabular.replay]
    cases hr : t.apply op with
    | error e =>
      change (t.stored.replay rest).bind _ = _
      rw [ih h]
      rfl
    | ok next =>
      rw [hr] at hm
      change (next.stored.replay rest).bind _ = _
      rw [ih hm.1]
      rfl

theorem Sound.insertAll_stored (h : t.Sound) (rows : List Row) :
    t.stored.insertAll rows = some ((t.insertAll rows).map stored) := by
  induction rows generalizing t with
  | nil => rfl
  | cons row rest ih =>
    have hm := h.insert row
    have hall : t.insertAll (row :: rest) = t.insert row >>= (·.insertAll rest) := rfl
    rw [StoredTable.insertAll, h.insert_stored row, hall]
    cases hr : t.insert row with
    | error e => rfl
    | ok next =>
      rw [hr] at hm
      exact ih hm.1

theorem Sound.even (h : t.Sound) : t.stored.Even := by
  have hcolumn : ∀ {c}, c ∈ t.stored.columns → ∃ old ∈ t.columns, old.stored = c := List.mem_map.mp
  refine ⟨?_, ?_, ?_, ?_, ?_, ?_⟩
  · exact List.map_map
  · intro c hc
    obtain ⟨old, -, rfl⟩ := hcolumn hc
    rfl
  · intro c hc
    obtain ⟨old, ho, rfl⟩ := hcolumn hc
    exact (h.columns old ho).nulls
  · intro c hc
    obtain ⟨old, ho, rfl⟩ := hcolumn hc
    exact (h.columns old ho).cells
  · intro c hc index v hv
    obtain ⟨old, ho, rfl⟩ := hcolumn hc
    have hs := h.columns old ho
    rw [hs.get_stored, ← Column.getElem?_values hs.aligned] at hv
    exact hs.finite v (List.mem_of_getElem? (Option.some.inj hv))
  · intro place hplace
    have hw := h.bounded place hplace
    simpa [stored, width] using hw

end Table

end Tabular
