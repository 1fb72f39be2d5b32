import Tabular.Database.Execute
import Tabular.Proofs.Table.Built

namespace Tabular

namespace Row

theorem value_set_self {row : Row} {column : Nat} (h : column < row.length) (v : Value) :
    Row.value (row.set column v) column = v := by
  simp [value, h]

/-- Rows that agree still do when one has got the other's value. -/
theorem Agree.set_right {key : Finset Nat} {a b : Row} {column : Nat} {v : Value}
    (h : Agree key (a.set column v) b) (ha : column < a.length) (hb : column < b.length)
    (hv : v.same v = true) : Agree key (a.set column v) (b.set column v) := by
  intro other ho
  by_cases hc : column = other
  · subst hc
    rw [value_set_self ha, value_set_self hb]
    exact hv
  · have hkept : Row.value (b.set column v) other = b.value other := value_set_ne hc v
    rw [hkept]
    exact h other ho

end Row

namespace Sheet

variable {s : Sheet} {places chosen : List Nat} {place column : Nat} {row : Row} {v : Value}

/-- One column of the rows at the places, all of them changed at once. -/
def overwrite (s : Sheet) (places : List Nat) (column : Nat) (v : Value) : Sheet :=
  { s with
    rows := s.rows.mapIdx fun place row => if place ∈ places then row.set column v else row }

/-- The changed row would agree with another one on the key. -/
def Collides (s : Sheet) (place column : Nat) (v : Value) : Prop :=
  column ∈ s.key ∧ ∃ row, s.rows[place]? = some row ∧
    ∃ other ∈ s.rows.eraseIdx place, Row.Agree s.key (row.set column v) other

theorem getElem?_overwrite (s : Sheet) (places : List Nat) (column : Nat) (v : Value) (i : Nat) :
    (s.overwrite places column v).rows[i]? =
      s.rows[i]?.map fun row => if i ∈ places then row.set column v else row :=
  List.getElem?_mapIdx

theorem overwrite_eq {rows : List Row}
    (h : ∀ i, rows[i]? = s.rows[i]?.map fun row => if i ∈ places then row.set column v else row) :
    s.overwrite places column v = { s with rows := rows } := by
  have hrows : (s.overwrite places column v).rows = rows := by
    apply List.ext_getElem?
    intro i
    rw [getElem?_overwrite, h]
  rw [← hrows]
  rfl

theorem overwrite_nil (s : Sheet) (column : Nat) (v : Value) : s.overwrite [] column v = s :=
  overwrite_eq fun i => by simp

theorem overwrite_congr (h : ∀ place, place ∈ places ↔ place ∈ chosen) :
    s.overwrite places column v = s.overwrite chosen column v := by
  simp [overwrite, h]

theorem overwrite_overwrite (s : Sheet) (places chosen : List Nat) (column : Nat) (v : Value) :
    (s.overwrite places column v).overwrite chosen column v =
      s.overwrite (places ++ chosen) column v := by
  symm
  apply overwrite_eq
  intro i
  rw [List.getElem?_mapIdx, getElem?_overwrite, Option.map_map]
  congr 1
  funext row
  by_cases hp : i ∈ places <;> by_cases hc : i ∈ chosen <;> simp [hp, hc]

theorem set_eq_overwrite (hr : s.rows[place]? = some row) :
    ({ s with rows := s.rows.set place (row.set column v) } : Sheet) =
      s.overwrite [place] column v := by
  symm
  apply overwrite_eq
  intro i
  rw [List.getElem?_set]
  by_cases hi : place = i
  · subst hi
    obtain ⟨hlt, rfl⟩ := List.getElem?_eq_some_iff.mp hr
    simp [hlt]
  · simp [hi, Ne.symm hi]

section Update

variable {field : Field} (hr : s.rows[place]? = some row) (hf : s.schema[column]? = some field)
  (ha : field.refusal v = none)

include hr

theorem collides_iff : s.Collides place column v ↔ column ∈ s.key ∧
    ∃ other ∈ s.rows.eraseIdx place, Row.Agree s.key (row.set column v) other := by
  simp [Collides, hr]

include hf ha

theorem update_of_collides (h : s.Collides place column v) :
    s.update place column v = .error (s.duplicate (row.set column v)) := by
  unfold update
  simp only [hr, hf, ha]
  exact if_pos ((collides_iff hr).mp h)

theorem update_of_free (h : ¬ s.Collides place column v) :
    s.update place column v = .ok (s.overwrite [place] column v) := by
  rw [← set_eq_overwrite hr]
  unfold update
  simp only [hr, hf, ha]
  exact if_neg fun hc => h ((collides_iff hr).mpr hc)

end Update

theorem Collides.not_keyed (h : s.Collides place column v) :
    ¬ (s.overwrite [place] column v).Keyed := by
  obtain ⟨hc, row, hr, other, ho, hagree⟩ := h
  obtain ⟨i, hi, ho⟩ := List.mem_eraseIdx_iff_getElem?.mp ho
  intro hk
  refine hk ⟨column, hc⟩ place i (row.set column v) other hi.symm ?_ ?_ hagree
  · simp [getElem?_overwrite, hr]
  · simp [getElem?_overwrite, ho, hi]

/-- If all of the rows can be changed at once, so can any of them: a row that is changed only in
the end agrees with a changed one in the end as well. -/
theorem Keyed.overwrite_of_subset (h : s.Keyed) (hw : ∀ row ∈ s.rows, column < row.length)
    (hv : v.same v = true) (hall : (s.overwrite places column v).Keyed) (hsub : chosen ⊆ places) :
    (s.overwrite chosen column v).Keyed := by
  have hplace : ∀ {i row}, s.rows[i]? = some row → (s.overwrite places column v).rows[i]? =
      some (if i ∈ places then row.set column v else row) := by
    intro i row hr
    rw [getElem?_overwrite, hr]
    rfl
  -- A changed row and one that is not to be changed.
  have hmixed : ∀ {i j a b}, i ≠ j → s.key.Nonempty → i ∈ chosen → s.rows[i]? = some a →
      s.rows[j]? = some b → ¬ Row.Agree s.key (a.set column v) b := by
    intro i j a b hij hne hi ha hb hagree
    have hna := hplace ha
    rw [if_pos (hsub hi)] at hna
    refine hall hne i j _ _ hij hna (hplace hb) ?_
    split
    · exact hagree.set_right (hw a (List.mem_of_getElem? ha)) (hw b (List.mem_of_getElem? hb)) hv
    · exact hagree
  intro hne i j a b hij ha hb hagree
  rw [getElem?_overwrite] at ha hb
  obtain ⟨a, hra, rfl⟩ := Option.map_eq_some_iff.mp ha
  obtain ⟨b, hrb, rfl⟩ := Option.map_eq_some_iff.mp hb
  by_cases hi : i ∈ chosen <;> by_cases hj : j ∈ chosen
  · rw [if_pos hi, if_pos hj] at hagree
    refine hall hne i j _ _ hij (hplace hra) (hplace hrb) ?_
    rwa [if_pos (hsub hi), if_pos (hsub hj)]
  · rw [if_pos hi, if_neg hj] at hagree
    exact hmixed hij hne hi hra hrb hagree
  · rw [if_neg hi, if_pos hj] at hagree
    exact hmixed hij.symm hne hj hrb hra hagree.symm
  · rw [if_neg hi, if_neg hj] at hagree
    exact h hne i j a b hij hra hrb hagree

/-- With the rows before it changed, the row is the first whose change would collide. -/
structure FirstCollision (s : Sheet) (places : List Nat) (column : Nat) (v : Value) (k : Nat)
    (row : Row) : Prop where
  collides : ∃ place, places[k]? = some place ∧ s.rows[place]? = some row ∧
    (s.overwrite (places.take k) column v).Collides place column v
  earlier : ∀ n < k, ∀ place, places[n]? = some place →
    ¬ (s.overwrite (places.take n) column v).Collides place column v

theorem FirstCollision.cons {rest : List Nat} {k : Nat} {other : Row}
    (h : (s.overwrite [place] column v).FirstCollision rest column v k other)
    (hfree : ¬ s.Collides place column v) :
    ∃ row, s.FirstCollision (place :: rest) column v (k + 1) row ∧
      row.set column v = other.set column v := by
  have hwritten : ∀ places, (s.overwrite [place] column v).overwrite places column v =
      s.overwrite (place :: places) column v := fun places => overwrite_overwrite s _ _ _ _
  obtain ⟨next, hnext, hother, hcollides⟩ := h.collides
  rw [getElem?_overwrite] at hother
  obtain ⟨row, hr, rfl⟩ := Option.map_eq_some_iff.mp hother
  rw [hwritten] at hcollides
  refine ⟨row, ⟨⟨next, hnext, hr, hcollides⟩, ?_⟩, by split <;> simp⟩
  intro n hn early he
  cases n with
  | zero =>
    obtain rfl : place = early := Option.some.inj he
    rwa [List.take_zero, overwrite_nil]
  | succ n =>
    rw [List.take_succ_cons, ← hwritten]
    exact h.earlier n (Nat.lt_of_succ_lt_succ hn) early he

/-- If the change of a row would collide after some others, then all of them cannot be made. -/
theorem FirstCollision.not_keyed {k : Nat} (hc : s.FirstCollision places column v k row)
    (h : s.Keyed) (hw : ∀ row ∈ s.rows, column < row.length) (hv : v.same v = true) :
    ¬ (s.overwrite places column v).Keyed := by
  obtain ⟨place, hplace, -, hcollides⟩ := hc.collides
  intro hall
  have htake : places.take (k + 1) = places.take k ++ [place] := by
    rw [List.take_add_one, hplace]
    rfl
  have hnext := h.overwrite_of_subset hw hv hall (List.take_subset (k + 1) places)
  rw [htake, ← overwrite_overwrite] at hnext
  exact hcollides.not_keyed hnext

end Sheet

namespace Table

variable {t : Table} {column : Nat} {field : Field} {v : Value}

/-- The writes of an update, row by row. -/
def updates (places : List Nat) (column : Nat) (v : Value) : List Write :=
  places.map fun place current => current.update place column v

theorem perform_cons_of_ok {write : Write} {rest : List Write} {next : Table}
    (h : write t = .ok next) : t.perform (write :: rest) = next.perform rest := by
  rw [perform, h]

theorem perform_cons_of_error {write : Write} {rest : List Write} {e : Error}
    (h : write t = .error e) : t.perform (write :: rest) = (t, some e) := by
  rw [perform, h]

/-- What each write keeps that goes through is kept by all of them up to one that is refused. -/
theorem perform_induction {P : Table → Prop} {writes : List Write}
    (hstep : ∀ write ∈ writes, ∀ t t', P t → write t = .ok t' → P t') (h : P t) :
    P (t.perform writes).1 := by
  induction writes generalizing t with
  | nil => exact h
  | cons write rest ih =>
    obtain ⟨hwrite, hrest⟩ := List.forall_mem_cons.mp hstep
    cases hw : write t with
    | error e =>
      rw [perform_cons_of_error hw]
      exact h
    | ok written =>
      rw [perform_cons_of_ok hw]
      exact ih hrest (hwrite t written h hw)

/-- Written row by row, the value reaches all of the rows or those before the first collision. -/
theorem Sound.perform_updates (h : t.Sound) (hf : t.schema[column]? = some field)
    (ha : field.refusal v = none) {places : List Nat}
    (hp : ∀ place ∈ places, place < t.rows.length) :
    (t.perform (updates places column v)).1.sheet = t.sheet.overwrite places column v ∧
        (t.perform (updates places column v)).2 = none ∨
      ∃ k row, t.sheet.FirstCollision places column v k row ∧
        (t.perform (updates places column v)).1.sheet =
          t.sheet.overwrite (places.take k) column v ∧
        (t.perform (updates places column v)).2 = some (t.sheet.duplicate (row.set column v)) := by
  induction places generalizing t with
  | nil => exact Or.inl ⟨(t.sheet.overwrite_nil column v).symm, rfl⟩
  | cons place rest ih =>
    obtain ⟨hlt, hrest⟩ := List.forall_mem_cons.mp hp
    obtain ⟨row, hr⟩ : ∃ row, t.sheet.rows[place]? = some row :=
      ⟨_, List.getElem?_eq_getElem hlt⟩
    have hm := h.update place column v
    by_cases hc : t.sheet.Collides place column v
    · rw [Sheet.update_of_collides hr hf ha hc] at hm
      have hperform : t.perform (updates (place :: rest) column v) = _ :=
        perform_cons_of_error hm.eq_error
      rw [hperform]
      refine Or.inr ⟨0, row, ⟨⟨place, rfl, hr, ?_⟩, nofun⟩,
        (t.sheet.overwrite_nil column v).symm, rfl⟩
      rwa [List.take_zero, Sheet.overwrite_nil]
    · rw [Sheet.update_of_free hr hf ha hc] at hm
      obtain ⟨next, hupdate, hsound, hsheet⟩ := hm.exists
      have hschema : next.schema = t.schema := congrArg Sheet.schema hsheet
      have hlength : next.rows.length = t.rows.length := by
        have hrows := congrArg (List.length ∘ Sheet.rows) hsheet
        simpa [Sheet.overwrite, sheet] using hrows
      have hperform : t.perform (updates (place :: rest) column v) =
          next.perform (updates rest column v) := perform_cons_of_ok hupdate
      have hwritten : ∀ places, next.sheet.overwrite places column v =
          t.sheet.overwrite (place :: places) column v := by
        intro places
        rw [hsheet, Sheet.overwrite_overwrite]
        rfl
      rw [hperform]
      obtain ⟨hall, hnone⟩ | ⟨k, other, hfirst, hpart, hsome⟩ :=
        ih hsound (by rwa [hschema]) (by rwa [hlength])
      · exact Or.inl ⟨hall.trans (hwritten rest), hnone⟩
      · rw [hsheet] at hfirst hsome
        obtain ⟨row, hcons, hset⟩ := hfirst.cons hc
        refine Or.inr ⟨k + 1, row, hcons, hpart.trans (hwritten _), ?_⟩
        rw [hsome, hset]
        rfl

end Table

end Tabular
