import Tabular.Database.Execute
import Tabular.Proofs.Table.Overwrite

namespace Tabular

/-- The places of the rows behind one that is erased are only counted anew. -/
theorem eraseIdx_filter_zipIdx (rows : List α) (start place : Nat) {rest : List Nat}
    (h : ∀ later ∈ rest, start + place < later) :
    ((rows.zipIdx start).filter fun found => found.2 ∉ (start + place) :: rest).map Prod.fst =
      (((rows.zipIdx start).filter fun found => found.2 ∉ rest).map Prod.fst).eraseIdx place := by
  induction rows generalizing start place with
  | nil => rfl
  | cons row rows ih =>
    have hstart : start ∉ rest := fun hm => by
      have := h start hm
      omega
    cases place with
    | zero =>
      have hbehind : ((rows.zipIdx (start + 1)).filter fun found => found.2 ∉ start :: rest) =
          (rows.zipIdx (start + 1)).filter fun found => found.2 ∉ rest := by
        apply List.filter_congr
        rintro ⟨other, i⟩ hm
        have := List.le_snd_of_mem_zipIdx hm
        have hne : i ≠ start := by omega
        simp [hne]
      rw [Nat.add_zero, List.zipIdx_cons, List.filter_cons_of_neg (by simp), hbehind,
        List.filter_cons_of_pos (by simpa using hstart), List.map_cons, List.eraseIdx_cons_zero]
    | succ place =>
      have hnext : start + 1 + place = start + (place + 1) := by omega
      have hkept := ih (start + 1) place (fun later hm => hnext ▸ h later hm)
      rw [hnext] at hkept
      rw [List.zipIdx_cons, List.filter_cons_of_pos (by simpa using hstart),
        List.filter_cons_of_pos (by simpa using hstart), List.map_cons, List.map_cons,
        List.eraseIdx_cons_succ, hkept]

namespace Sheet

/-- The sheet without the rows at the places, whichever order they are listed in. -/
def without (s : Sheet) (places : List Nat) : Sheet :=
  { s with rows := (s.rows.zipIdx.filter fun found => found.2 ∉ places).map Prod.fst }

theorem without_nil (s : Sheet) : s.without [] = s := by
  simp [without]

theorem without_cons (s : Sheet) {place : Nat} {rest : List Nat}
    (h : ∀ later ∈ rest, place < later) :
    s.without (place :: rest) = (s.without rest).delete place := by
  have herase := eraseIdx_filter_zipIdx s.rows 0 place (by simpa using h)
  rw [Nat.zero_add] at herase
  unfold without
  rw [herase]
  rfl

end Sheet

namespace Table

variable {t : Table}

/-- The writes of a deletion, row by row. -/
def deletes (places : List Nat) : List Write :=
  places.map fun row current => .ok (current.delete row)

theorem perform_deletes (t : Table) (places : List Nat) :
    t.perform (deletes places) = (places.foldl delete t, none) := by
  induction places generalizing t with
  | nil => rfl
  | cons place rest ih => exact ih (t.delete place)

/-- Each row that leaves stands behind those still to leave, so these are where they were. -/
theorem Sound.sheet_foldr_delete (h : t.Sound) {places : List Nat}
    (hp : places.Pairwise (· < ·)) :
    (places.foldr (fun place t => t.delete place) t).Sound ∧
      (places.foldr (fun place t => t.delete place) t).sheet = t.sheet.without places := by
  induction places with
  | nil => exact ⟨h, t.sheet.without_nil.symm⟩
  | cons place rest ih =>
    obtain ⟨hlater, hrest⟩ := List.pairwise_cons.mp hp
    obtain ⟨hsound, hsheet⟩ := ih hrest
    refine ⟨hsound.delete place, ?_⟩
    rw [Sheet.without_cons t.sheet hlater, ← hsheet]
    exact hsound.sheet_delete place

theorem Sound.perform_deletes_reverse (h : t.Sound) {places : List Nat}
    (hp : places.Pairwise (· < ·)) :
    (t.perform (deletes places.reverse)).1.sheet = t.sheet.without places := by
  rw [perform_deletes, List.foldl_reverse]
  exact (h.sheet_foldr_delete hp).2

end Table

end Tabular
