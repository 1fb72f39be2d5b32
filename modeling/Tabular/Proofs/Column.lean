import Mathlib.Data.List.Basic
import Tabular.Column
import Tabular.Proofs.Result

namespace Tabular

/-- Why a value has no place in a column, if it has none. -/
def Field.refusal (field : Field) (v : Value) : Option Error :=
  match v.kind? with
  | none => none
  | some found =>
    if found ≠ field.kind then some (.kindMismatch field.name field.kind found)
    else if v.isFinite then none
    else some (.unreadable v.render field.kind)

theorem Field.finite_of_accepted {field : Field} {v : Value} (h : field.refusal v = none) :
    v.isFinite = true := by
  unfold Field.refusal at h
  cases hk : v.kind? with
  | none => cases v <;> simp_all [Value.kind?, Value.isFinite]
  | some found =>
    simp only [hk] at h
    split at h
    · cases h
    · split at h
      · assumption
      · cases h

theorem Field.kind_of_accepted {field : Field} {v : Value} {found : Kind}
    (h : field.refusal v = none) (hk : v.kind? = some found) : field.kind = found := by
  unfold Field.refusal at h
  simp only [hk] at h
  split at h
  · cases h
  · rename_i heq
    exact (not_not.mp heq).symm

/-- Filtering the results over a range keeps every place if no result below its end is missing. -/
theorem getElem?_filterMap_range {f : Nat → Option α} {n : Nat} (d : α)
    (h : ∀ i, i < n ↔ (f i).isSome) (i : Nat) :
    ((List.range n).filterMap f)[i]? = f i := by
  have hmap : (List.range n).filterMap f = (List.range n).map fun i => (f i).getD d := by
    rw [← List.filterMap_eq_map]
    apply List.filterMap_congr
    intro j hj
    obtain ⟨a, ha⟩ := Option.isSome_iff_exists.mp ((h j).mp (List.mem_range.mp hj))
    simp [ha]
  rw [hmap, List.getElem?_map]
  by_cases hi : i < n
  · obtain ⟨a, ha⟩ := Option.isSome_iff_exists.mp ((h i).mp hi)
    simp [hi, ha]
  · have hn : f i = none := Option.not_isSome_iff_eq_none.mp (fun hs => hi ((h i).mpr hs))
    simp [hi, hn]

theorem length_filterMap_range {f : Nat → Option α} {n : Nat}
    (h : ∀ i < n, (f i).isSome) : ((List.range n).filterMap f).length = n := by
  rw [List.length_filterMap_eq_countP, List.countP_eq_length.mpr]
  · exact List.length_range
  · intro i hi
    exact h i (List.mem_range.mp hi)

namespace Column

def field (c : Column) : Field := ⟨c.name, c.kind⟩

/-- Both arrays of a column end at the same row, and no float that shows is infinite or NaN. -/
structure Sound (c : Column) (count : Nat) : Prop where
  nulls : c.nulls.size = count
  cells : c.cells.size = count
  finite : ∀ v ∈ c.values, v.isFinite = true

theorem isSome_get? {c : Column} (h : c.cells.size = c.nulls.size) (i : Nat) :
    i < c.size ↔ (c.get? i).isSome := by
  unfold get? size
  by_cases hi : i < c.nulls.size
  · have hc : i < c.cells.size := by omega
    rw [Array.getElem?_eq_getElem hi, Array.getElem?_eq_getElem hc]
    cases c.nulls[i] <;> simp [hi]
  · rw [Array.getElem?_eq_none (Nat.le_of_not_lt hi)]
    simp [hi]

theorem getElem?_values {c : Column} (h : c.cells.size = c.nulls.size) (i : Nat) :
    c.values[i]? = c.get? i :=
  getElem?_filterMap_range .null (isSome_get? h) i

theorem length_values {c : Column} (h : c.cells.size = c.nulls.size) :
    c.values.length = c.size :=
  length_filterMap_range fun i hi => (isSome_get? h i).mp hi

/-- Two aligned columns that give the same values one by one show the same list. -/
theorem values_ext {c : Column} {vs : List Value} (h : c.cells.size = c.nulls.size)
    (hv : ∀ i, c.get? i = vs[i]?) : c.values = vs :=
  List.ext_getElem? fun i => by rw [getElem?_values h, hv i]

theorem kind?_ofCell (kind : Kind) (content : kind.Cell) :
    (Value.ofCell kind content).kind? = some kind := by
  cases kind <;> rfl

/-- What a column shows it would accept again. -/
theorem Sound.accepts {c : Column} {n : Nat} {v : Value} (h : c.Sound n) (hv : v ∈ c.values) :
    c.field.refusal v = none := by
  have hfinite := h.finite v hv
  obtain ⟨i, -, hi⟩ := List.mem_filterMap.mp hv
  unfold get? at hi
  split at hi
  · cases hi
    rfl
  · cases hi
    unfold Field.refusal
    rw [kind?_ofCell]
    dsimp only
    have hkind : ¬ c.kind ≠ c.field.kind := fun hne => hne rfl
    rw [if_neg hkind, if_pos hfinite]
  · cases hi

/-- What `push` makes of a column that accepts the value. -/
def append (c : Column) (v : Value) : Column :=
  { c with
    cells := c.cells.push ((v.cell? c.kind).getD c.kind.blank)
    nulls := c.nulls.push v.isNull }

/-- What `set` makes of a column that accepts the value. -/
def write (c : Column) (index : Nat) (v : Value) : Column :=
  { c with
    cells := match v.cell? c.kind with
      | some content => c.cells.setIfInBounds index content
      | none => c.cells
    nulls := c.nulls.setIfInBounds index v.isNull }

/-- A value is accepted as the content of a cell or as null, or it is refused. -/
theorem accept_eq (c : Column) (v : Value) :
    c.accept v = checked (c.field.refusal v) (v.cell? c.kind) := by
  obtain ⟨name, kind, cells, nulls⟩ := c
  unfold accept Field.refusal field checked
  cases hf : v.isFinite <;> cases v <;> cases kind <;> simp_all [Value.cell?, Value.kind?]

theorem isNull_of_accepted {c : Column} {v : Value} (h : c.field.refusal v = none) :
    v.isNull = (v.cell? c.kind).isNone := by
  obtain ⟨name, kind, cells, nulls⟩ := c
  unfold Field.refusal field at h
  cases v <;> cases kind <;> simp_all [Value.cell?, Value.kind?, Value.isNull]

theorem push_eq (c : Column) (v : Value) :
    c.push v = checked (c.field.refusal v) (c.append v) := by
  unfold push
  rw [accept_eq]
  cases hr : c.field.refusal v with
  | some e => rfl
  | none =>
    have hn := isNull_of_accepted hr
    cases hc : v.cell? c.kind with
    | some content => simp [checked, bind, Except.bind, append, hc, hn, pure, Except.pure]
    | none => simp [checked, bind, Except.bind, append, hc, hn, pure, Except.pure]

theorem set_eq (c : Column) (index : Nat) (v : Value) :
    c.set index v =
      if index < c.size then checked (c.field.refusal v) (c.write index v)
      else .error (.missing (.cell index)) := by
  unfold set
  rw [accept_eq]
  split
  · cases hr : c.field.refusal v with
    | some e => rfl
    | none =>
      have hn := isNull_of_accepted hr
      cases hc : v.cell? c.kind with
      | some content => simp [checked, bind, Except.bind, write, hc, hn, pure, Except.pure]
      | none => simp [checked, bind, Except.bind, write, hc, hn, pure, Except.pure]
  · rfl

theorem get?_mk (name : String) (kind : Kind) (cells : Array kind.Cell) (nulls : Array Bool)
    (i : Nat) :
    get? ⟨name, kind, cells, nulls⟩ i = nulls[i]?.bind fun null => cells[i]?.map fun content =>
      if null then .null else .ofCell kind content := by
  unfold get?
  cases nulls[i]? with
  | none => rfl
  | some null => cases null <;> cases cells[i]? <;> rfl

/-- The value that an accepted value puts into a cell is that value. -/
theorem shown_of_accepted {c : Column} {v : Value} (h : c.field.refusal v = none)
    (stale : c.kind.Cell) :
    (if v.isNull then Value.null else .ofCell c.kind ((v.cell? c.kind).getD stale)) = v := by
  rw [isNull_of_accepted h]
  cases hc : v.cell? c.kind with
  | none =>
    have hn : v.isNull = true := by rw [isNull_of_accepted h, hc]; rfl
    cases v <;> first | rfl | cases hn
  | some content => simpa using Value.ofCell_of_cell? hc

theorem Sound.aligned {c : Column} {n : Nat} (h : c.Sound n) : c.cells.size = c.nulls.size :=
  h.cells.trans h.nulls.symm

theorem Sound.length {c : Column} {n : Nat} (h : c.Sound n) : c.values.length = n :=
  (length_values h.aligned).trans h.nulls

@[simp] theorem values_ofNulls (name : String) (kind : Kind) (n : Nat) :
    (ofNulls name kind n).values = List.replicate n .null := by
  apply values_ext (by simp [ofNulls])
  intro i
  rw [ofNulls, get?_mk]
  by_cases hi : i < n <;> simp [hi]

theorem sound_ofNulls (name : String) (kind : Kind) (n : Nat) : (ofNulls name kind n).Sound n := by
  refine ⟨by simp [ofNulls], by simp [ofNulls], ?_⟩
  intro v hv
  rw [values_ofNulls] at hv
  rw [List.eq_of_mem_replicate hv]
  rfl

theorem values_append {c : Column} {n : Nat} {v : Value} (h : c.Sound n)
    (hv : c.field.refusal v = none) : (c.append v).values = c.values ++ [v] := by
  apply values_ext (by simp [append, h.nulls, h.cells])
  intro i
  rw [append, get?_mk, Array.getElem?_push, Array.getElem?_push, h.nulls, h.cells]
  rcases Nat.lt_trichotomy i n with hi | hi | hi
  · have hlen : i < c.values.length := by
      rw [h.length]
      exact hi
    rw [if_neg (by omega), if_neg (by omega), List.getElem?_append_left hlen,
      getElem?_values h.aligned]
    exact (get?_mk c.name c.kind c.cells c.nulls i).symm
  · subst i
    rw [if_pos rfl, if_pos rfl, List.getElem?_append_right (Nat.le_of_eq h.length),
      h.length]
    simpa using shown_of_accepted hv c.kind.blank
  · rw [if_neg (by omega), Array.getElem?_eq_none (by rw [h.nulls]; omega),
      List.getElem?_eq_none (by simp [h.length]; omega)]
    rfl

theorem Sound.append {c : Column} {n : Nat} {v : Value} (h : c.Sound n)
    (hv : c.field.refusal v = none) : (c.append v).Sound (n + 1) := by
  refine ⟨by simp [Column.append, h.nulls], by simp [Column.append, h.cells], ?_⟩
  intro w hw
  rw [values_append h hv] at hw
  rcases List.mem_append.mp hw with hw | hw
  · exact h.finite w hw
  · rw [List.mem_singleton.mp hw]
    exact Field.finite_of_accepted hv

theorem size_write {c : Column} {n : Nat} (h : c.Sound n) (i : Nat) (v : Value) :
    (c.write i v).nulls.size = n ∧ (c.write i v).cells.size = n := by
  refine ⟨by simp [write, h.nulls], ?_⟩
  unfold write
  cases v.cell? c.kind <;> simp [h.cells]

theorem values_write {c : Column} {n i : Nat} {v : Value} (h : c.Sound n) (hi : i < n)
    (hv : c.field.refusal v = none) : (c.write i v).values = c.values.set i v := by
  apply values_ext ((size_write h i v).2.trans (size_write h i v).1.symm)
  intro j
  rw [write, get?_mk, List.getElem?_set, h.length]
  by_cases hj : i = j
  · subst j
    -- A null leaves the old content in the cell, where the mark hides it.
    have hc : i < c.cells.size := by rw [h.cells]; exact hi
    have hcell : (match v.cell? c.kind with
        | some content => c.cells.setIfInBounds i content
        | none => c.cells)[i]? = some ((v.cell? c.kind).getD c.cells[i]) := by
      cases v.cell? c.kind <;> simp [hc]
    rw [hcell, Array.getElem?_setIfInBounds_self, h.nulls, if_pos hi, if_pos rfl, if_pos hi]
    exact congrArg some (shown_of_accepted hv c.cells[i])
  · have hcell : (match v.cell? c.kind with
        | some content => c.cells.setIfInBounds i content
        | none => c.cells)[j]? = c.cells[j]? := by
      cases v.cell? c.kind <;> simp [hj]
    rw [hcell, Array.getElem?_setIfInBounds_ne hj, if_neg hj, getElem?_values h.aligned]
    exact (get?_mk c.name c.kind c.cells c.nulls j).symm

theorem Sound.write {c : Column} {n i : Nat} {v : Value} (h : c.Sound n) (hi : i < n)
    (hv : c.field.refusal v = none) : (c.write i v).Sound n := by
  refine ⟨(size_write h i v).1, (size_write h i v).2, ?_⟩
  intro w hw
  rw [values_write h hi hv] at hw
  rcases List.mem_or_eq_of_mem_set hw with hw | hw
  · exact h.finite w hw
  · rw [hw]
    exact Field.finite_of_accepted hv

theorem getElem?_eraseIdxIfInBounds (as : Array α) (i j : Nat) :
    (as.eraseIdxIfInBounds i)[j]? = if j < i then as[j]? else as[j + 1]? := by
  rw [← Array.getElem?_toList, Array.toList_eraseIdxIfInBounds, List.getElem?_eraseIdx,
    Array.getElem?_toList, Array.getElem?_toList]

theorem size_eraseIdxIfInBounds (as : Array α) (i : Nat) :
    (as.eraseIdxIfInBounds i).size = if i < as.size then as.size - 1 else as.size := by
  rw [← Array.length_toList, Array.toList_eraseIdxIfInBounds, List.length_eraseIdx,
    Array.length_toList]

theorem values_remove {c : Column} {n : Nat} (h : c.Sound n) (i : Nat) :
    (c.remove i).values = c.values.eraseIdx i := by
  apply values_ext (by simp only [remove, size_eraseIdxIfInBounds, h.nulls, h.cells])
  intro j
  rw [remove, get?_mk, getElem?_eraseIdxIfInBounds, getElem?_eraseIdxIfInBounds,
    List.getElem?_eraseIdx, getElem?_values h.aligned, getElem?_values h.aligned]
  split
  · exact (get?_mk c.name c.kind c.cells c.nulls j).symm
  · exact (get?_mk c.name c.kind c.cells c.nulls (j + 1)).symm

theorem Sound.remove {c : Column} {n i : Nat} (h : c.Sound n) (hi : i < n) :
    (c.remove i).Sound (n - 1) := by
  refine ⟨?_, ?_, ?_⟩
  · simp only [Column.remove, size_eraseIdxIfInBounds, h.nulls, hi, ↓reduceIte]
  · simp only [Column.remove, size_eraseIdxIfInBounds, h.cells, hi, ↓reduceIte]
  · intro v hv
    rw [values_remove h] at hv
    exact h.finite v (List.mem_of_mem_eraseIdx hv)

theorem sound_clear (c : Column) : c.clear.Sound 0 :=
  ⟨rfl, rfl, fun v hv => by cases hv⟩

end Column

end Tabular
