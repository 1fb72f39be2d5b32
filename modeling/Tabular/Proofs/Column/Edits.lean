import Tabular.Proofs.Table.Layout

namespace Tabular

inductive Edit where
  | push (v : Value)
  | set (index : Nat) (v : Value)
  | remove (index : Nat)
  | clear

def Column.edit (c : Column) : Edit → Left Column
  | .push v => leave c (c.push v)
  | .set index v => leave c (c.set index v)
  | .remove index => (c.remove index, .ok ())
  | .clear => (c.clear, .ok ())

def StoredColumn.edit (c : StoredColumn) : Edit → Option (Left StoredColumn)
  | .push v => c.push v
  | .set index v => c.set index v
  | .remove index => (c.remove index).map (·, .ok ())
  | .clear => some (c.clear, .ok ())

/-- A value with no place in the field, and a place past the end, leave the list as it is. -/
def Field.edit (field : Field) (vs : List Value) : Edit → Left (List Value)
  | .push v => leave vs (checked (field.refusal v) (vs ++ [v]))
  | .set index v =>
    if index < vs.length then leave vs (checked (field.refusal v) (vs.set index v))
    else (vs, .error (.missing (.cell index)))
  | .remove index => (vs.eraseIdx index, .ok ())
  | .clear => ([], .ok ())

/-- Edits one after another on what the ones before have left, with the result of each. -/
def editAll (edit : σ → Edit → Left σ) (s : σ) : List Edit → σ × List (Except Error Unit)
  | [] => (s, [])
  | e :: rest =>
    let (next, result) := edit s e
    let (last, results) := editAll edit next rest
    (last, result :: results)

def StoredColumn.editAll (c : StoredColumn) :
    List Edit → Option (StoredColumn × List (Except Error Unit))
  | [] => some (c, [])
  | e :: rest => do
    let (next, result) ← c.edit e
    let (last, results) ← next.editAll rest
    return (last, result :: results)

namespace Column

variable {c : Column} {n : Nat}

theorem Sound.remove_of_le (h : c.Sound n) {index : Nat} (hi : n ≤ index) : c.remove index = c := by
  have hcells : c.cells.eraseIdxIfInBounds index = c.cells := by
    unfold Array.eraseIdxIfInBounds
    rw [dif_neg (by rw [h.cells]; omega)]
  have hnulls : c.nulls.eraseIdxIfInBounds index = c.nulls := by
    unfold Array.eraseIdxIfInBounds
    rw [dif_neg (by rw [h.nulls]; omega)]
  unfold Column.remove
  rw [hcells, hnulls]

/-- One edit: the column is left with the values that the list is left with, and answers as the
list does. -/
theorem Sound.edit (h : c.Sound n) (e : Edit) :
    (∃ m, (c.edit e).1.Sound m) ∧ (c.edit e).1.field = c.field ∧
      c.field.edit c.values e = ((c.edit e).1.values, (c.edit e).2) := by
  cases e with
  | push v =>
    unfold Column.edit Field.edit
    dsimp only
    rw [push_eq]
    cases hr : c.field.refusal v with
    | some e => exact ⟨⟨n, h⟩, rfl, rfl⟩
    | none =>
      refine ⟨⟨n + 1, h.append hr⟩, rfl, ?_⟩
      rw [← values_append h hr]
      rfl
  | set index v =>
    unfold Column.edit Field.edit
    dsimp only
    rw [set_eq, h.length, show c.size = n from h.nulls]
    split
    · rename_i hi
      cases hr : c.field.refusal v with
      | some e => exact ⟨⟨n, h⟩, rfl, rfl⟩
      | none =>
        refine ⟨⟨n, h.write hi hr⟩, rfl, ?_⟩
        rw [← values_write h hi hr]
        rfl
    · exact ⟨⟨n, h⟩, rfl, rfl⟩
  | remove index =>
    refine ⟨?_, rfl, ?_⟩
    · by_cases hi : index < n
      · exact ⟨n - 1, h.remove hi⟩
      · refine ⟨n, ?_⟩
        change (c.remove index).Sound n
        rwa [h.remove_of_le (Nat.le_of_not_lt hi)]
    · unfold Field.edit
      dsimp only
      rw [← values_remove h index]
      rfl
  | clear => exact ⟨⟨0, sound_clear c⟩, rfl, rfl⟩

theorem Sound.edit_stored (h : c.Sound n) (e : Edit) :
    c.stored.edit e = some ((c.edit e).1.stored, (c.edit e).2) := by
  have hleave : ∀ result : Except Error Column,
      leave c.stored (result.map stored) = ((leave c result).1.stored, (leave c result).2) := by
    intro result
    cases result <;> rfl
  cases e with
  | push v => exact (push_stored c v).trans (congrArg some (hleave _))
  | set index v => exact (h.set_stored index v).trans (congrArg some (hleave _))
  | remove index =>
    have hremove : c.stored.remove index = some (c.remove index).stored := by
      by_cases hi : index < n
      · exact h.remove_stored hi
      · have hle : n ≤ index := Nat.le_of_not_lt hi
        rw [h.remove_of_le hle]
        exact if_pos (h.nulls.symm ▸ hle)
    unfold StoredColumn.edit
    dsimp only
    rw [hremove]
    rfl
  | clear => rfl

theorem Sound.editAll (h : c.Sound n) (edits : List Edit) :
    (∃ m, (editAll Column.edit c edits).1.Sound m) ∧
      (Tabular.editAll Column.edit c edits).1.field = c.field ∧
      Tabular.editAll c.field.edit c.values edits =
        ((Tabular.editAll Column.edit c edits).1.values,
          (Tabular.editAll Column.edit c edits).2) := by
  induction edits generalizing c n with
  | nil => exact ⟨⟨n, h⟩, rfl, rfl⟩
  | cons e rest ih =>
    obtain ⟨⟨m, hnext⟩, hfield, hvalues⟩ := h.edit e
    obtain ⟨hsound, hlast, hrest⟩ := ih hnext
    refine ⟨hsound, hlast.trans hfield, ?_⟩
    unfold Tabular.editAll
    dsimp only
    rw [hvalues]
    dsimp only
    rw [← hfield, hrest]

theorem Sound.editAll_stored (h : c.Sound n) (edits : List Edit) :
    c.stored.editAll edits =
      some ((Tabular.editAll Column.edit c edits).1.stored,
        (Tabular.editAll Column.edit c edits).2) := by
  induction edits generalizing c n with
  | nil => rfl
  | cons e rest ih =>
    obtain ⟨⟨m, hnext⟩, -, -⟩ := h.edit e
    unfold StoredColumn.editAll
    rw [h.edit_stored e]
    dsimp only [bind, Option.bind]
    rw [ih hnext]
    rfl

theorem leave_eq_error {old left : σ} {x : Except Error σ} {e : Error}
    (h : leave old x = (left, .error e)) : left = old := by
  cases x with
  | ok new => cases h
  | error e' => exact (congrArg Prod.fst h).symm

theorem edit_eq_error {left : Column} {e : Edit} {error : Error}
    (h : c.edit e = (left, .error error)) : left = c := by
  cases e with
  | push v => exact leave_eq_error h
  | set index v => exact leave_eq_error h
  | remove index => cases h
  | clear => cases h

/-- Two columns that show the same go on to show the same, whatever their arrays hold. -/
theorem Sound.editAll_congr {c' : Column} {n' : Nat} (h : c.Sound n) (h' : c'.Sound n')
    (hfield : c'.field = c.field) (hvalues : c'.values = c.values) (edits : List Edit) :
    let own := Tabular.editAll Column.edit c edits
    let other := Tabular.editAll Column.edit c' edits
    other.2 = own.2 ∧ other.1.size = own.1.size ∧ ∀ i, other.1.get? i = own.1.get? i := by
  intro own other
  obtain ⟨⟨m, hown⟩, -, hrun⟩ := h.editAll edits
  obtain ⟨⟨m', hother⟩, -, hrun'⟩ := h'.editAll edits
  rw [hfield, hvalues, hrun] at hrun'
  obtain ⟨hlast, hresults⟩ := Prod.mk.inj hrun'
  have hshown : other.1.values = own.1.values := hlast.symm
  refine ⟨hresults.symm, ?_, ?_⟩
  · rw [← length_values hother.aligned, ← length_values hown.aligned, hshown]
  · intro i
    rw [← getElem?_values hother.aligned, ← getElem?_values hown.aligned, hshown]

/-- Contents for the cells of a column that differ from its own under null at most. -/
structure Veiled (c : Column) (cells : Array c.kind.Cell) : Prop where
  size : cells.size = c.cells.size
  seen : ∀ i : Nat, c.nulls[i]? = some false → cells[i]? = c.cells[i]?

section Veiled

variable {cells : Array c.kind.Cell} (h : c.Veiled cells)

include h

theorem Veiled.get?_eq (i : Nat) : get? { c with cells := cells } i = c.get? i := by
  rw [get?_mk, get?_mk c.name c.kind c.cells c.nulls i]
  cases hn : c.nulls[i]? with
  | none => rfl
  | some null =>
    cases null with
    | false => rw [h.seen i hn]
    | true =>
      by_cases hi : i < c.cells.size
      · have hi' : i < cells.size := Nat.lt_of_lt_of_eq hi h.size.symm
        rw [Array.getElem?_eq_getElem hi, Array.getElem?_eq_getElem hi']
        rfl
      · rw [Array.getElem?_eq_none (Nat.le_of_not_lt hi),
          Array.getElem?_eq_none (h.size ▸ Nat.le_of_not_lt hi)]

theorem Veiled.values_eq (hs : c.Sound n) : values { c with cells := cells } = c.values :=
  values_ext (h.size.trans hs.aligned) fun i => by rw [h.get?_eq, getElem?_values hs.aligned]

theorem Veiled.sound (hs : c.Sound n) : Sound { c with cells := cells } n :=
  ⟨hs.nulls, h.size.trans hs.cells, by rw [h.values_eq hs]; exact hs.finite⟩

end Veiled

/-- After any edits a column has the length of the list that was edited with it, gives the values
of that list and has answered as it has; no access to its arrays has gone past their ends, and an
edit that is refused changes nothing in them. What the cells hold under null makes no difference to
anything that comes after. -/
theorem edits_as_list (name : String) (kind : Kind) (count : Nat) (edits : List Edit) :
    let column := Tabular.editAll Column.edit (ofNulls name kind count) edits
    let list := Tabular.editAll (Field.edit ⟨name, kind⟩) (List.replicate count .null) edits
    let stored := column.1.stored
    column.2 = list.2 ∧
      column.1.size = list.1.length ∧
      (∀ i, column.1.get? i = list.1[i]?) ∧
      StoredColumn.editAll (.ofNulls ⟨name, kind⟩ count) edits = some (stored, column.2) ∧
      (∀ i, stored.get i = some list.1[i]?) ∧
      (∀ e left error, stored.edit e = some (left, .error error) → left = stored) ∧
      ∀ cells, column.1.Veiled cells → ∀ later,
        let own := Tabular.editAll Column.edit column.1 later
        let other := Tabular.editAll Column.edit { column.1 with cells := cells } later
        other.2 = own.2 ∧ other.1.size = own.1.size ∧ ∀ i, other.1.get? i = own.1.get? i := by
  intro column list stored
  have hnew : (ofNulls name kind count).Sound count := sound_ofNulls name kind count
  obtain ⟨⟨n, hsound⟩, -, hrun⟩ := hnew.editAll edits
  rw [values_ofNulls] at hrun
  have hlist : list = (column.1.values, column.2) := hrun
  have hget : ∀ i, column.1.get? i = list.1[i]? := by
    intro i
    rw [hlist]
    exact (getElem?_values hsound.aligned i).symm
  refine ⟨by rw [hlist], ?_, hget, ?_, ?_, ?_, ?_⟩
  · rw [hlist]
    exact (length_values hsound.aligned).symm
  · rw [← stored_ofNulls]
    exact hnew.editAll_stored edits
  · intro i
    rw [← hget]
    exact hsound.get_stored i
  · intro e left error h
    rw [hsound.edit_stored] at h
    obtain ⟨hleft, hrefused⟩ := Prod.mk.inj (Option.some.inj h)
    have hsame : (column.1.edit e).1 = column.1 := edit_eq_error (Prod.ext rfl hrefused)
    exact hleft.symm.trans (congrArg Column.stored hsame)
  · intro cells hveiled later
    exact hsound.editAll_congr (hveiled.sound hsound) rfl (hveiled.values_eq hsound) later

/-- A five goes under null, a text is refused and a seven comes behind; then it makes no difference
if a nine stands where the five is left, also when the cell has been set and made null again. -/
theorem edits_as_list_stale :
    let edits : List Edit :=
      [.set 0 (.int 5), .set 0 .null, .push (.text "a"), .push (.int 7)]
    let column := Tabular.editAll Column.edit (ofNulls "place" .int 1) edits
    let stored := column.1.stored
    let later : List Edit := [.set 0 (.int 1), .set 0 .null, .remove 1]
    let other : Column := { column.1 with cells := (#[9, 7] : Array Int32) }
    column.2 = [.ok (), .ok (), .error (.kindMismatch "place" .int .text), .ok ()] ∧
      column.1.cells = (#[5, 7] : Array Int32) ∧
      stored.edit (.set 2 .null) = some (stored, .error (.missing (.cell 2))) ∧
      column.1.Veiled (#[9, 7] : Array Int32) ∧
      (Tabular.editAll Column.edit other later).1.get? 0 =
        (Tabular.editAll Column.edit column.1 later).1.get? 0 := by
  intro edits column stored later other
  obtain ⟨-, -, -, -, -, hrefused, hveiled⟩ := edits_as_list "place" .int 1 edits
  have hveil : column.1.Veiled (#[9, 7] : Array Int32) := by
    refine ⟨rfl, fun i hi => ?_⟩
    match i with
    | 0 => cases hi
    | 1 => rfl
    | i + 2 => cases hi
  obtain ⟨left, hedit⟩ : ∃ left, stored.edit (.set 2 .null) =
      some (left, .error (.missing (.cell 2))) := ⟨_, rfl⟩
  refine ⟨by decide, rfl, ?_, hveil, (hveiled _ hveil later).2.2 0⟩
  rw [hedit, hrefused _ _ _ hedit]

end Column

end Tabular
