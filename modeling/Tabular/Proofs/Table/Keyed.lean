import Tabular.Proofs.Table.Refinement
import Tabular.Proofs.Value

namespace Tabular

namespace Row

theorem Agree.symm {key : Finset Nat} {a b : Row} (h : Agree key a b) : Agree key b a :=
  fun column hc => (Value.same_comm _ _).trans (h column hc)

theorem value_set_ne {row : Row} {i j : Nat} (hij : i ≠ j) (v : Value) :
    Row.value (row.set i v) j = row.value j := by
  simp [value, List.getD_eq_getElem?_getD, List.getElem?_set_ne hij]

end Row

namespace Sheet

theorem keyed_of_no_rows {s : Sheet} (h : s.rows = []) : s.Keyed := by
  intro _ i j a b _ ha
  rw [h] at ha
  cases ha

/-- A row among others that share no key agrees with none of those in front of it. -/
theorem Keyed.free {s : Sheet} {before rest : List Row} {row : Row}
    (h : ({ s with rows := before ++ row :: rest } : Sheet).Keyed) :
    ¬ (s.key.Nonempty ∧ ∃ stored ∈ before, Row.Agree s.key row stored) := by
  rintro ⟨hne, stored, hs, hagree⟩
  obtain ⟨i, hi⟩ := List.mem_iff_getElem?.mp hs
  have hlt : i < before.length := (List.getElem?_eq_some_iff.mp hi).1
  have hrow : (before ++ row :: rest)[before.length]? = some row := by simp
  have hstored : (before ++ row :: rest)[i]? = some stored :=
    (List.getElem?_append_left hlt).trans hi
  exact h hne before.length i row stored (Nat.ne_of_gt hlt) hrow hstored hagree

theorem Keyed.insert {s s' : Sheet} {row : Row} (h : s.Keyed) (hs : s.insert row = .ok s') :
    s'.Keyed := by
  obtain ⟨filled, -, -, -, hfree, rfl⟩ := insert_ok hs
  intro hk i j a b hij ha hb
  have hnew : ∀ stored ∈ s.rows, ¬ Row.Agree s.key filled stored :=
    fun stored hm hagree => hfree ⟨hk, stored, hm, hagree⟩
  -- A place is either an old one or the last.
  have hplace : ∀ {k c}, (s.rows ++ [filled])[k]? = some c →
      s.rows[k]? = some c ∨ k = s.rows.length ∧ c = filled := by
    intro k c hc
    rw [List.getElem?_append, List.getElem?_singleton] at hc
    split at hc
    · exact Or.inl hc
    · split at hc
      · exact Or.inr ⟨by omega, (Option.some.inj hc).symm⟩
      · cases hc
  rcases hplace ha with hi | ⟨rfl, rfl⟩ <;> rcases hplace hb with hj | ⟨rfl, rfl⟩
  · exact h hk i j a b hij hi hj
  · exact fun hagree => hnew a (List.mem_of_getElem? hi) hagree.symm
  · exact hnew b (List.mem_of_getElem? hj)
  · exact absurd rfl hij

theorem Keyed.update {s s' : Sheet} {row column : Nat} {v : Value} (h : s.Keyed)
    (hs : s.update row column v = .ok s') : s'.Keyed := by
  obtain ⟨old, field, hold, -, -, hfree, rfl⟩ := update_ok hs
  intro hk i j a b hij ha hb
  -- The changed row agrees with no other: outside the key it is the old row, in it the check holds.
  have hnew : ∀ k c, row ≠ k → s.rows[k]? = some c →
      ¬ Row.Agree s.key (old.set column v) c := by
    intro k c hne hc hagree
    by_cases hcol : column ∈ s.key
    · exact hfree ⟨hcol, c, List.mem_eraseIdx_iff_getElem?.mpr ⟨k, hne.symm, hc⟩, hagree⟩
    · refine h hk row k old c hne hold hc ?_
      intro other ho
      have hne : column ≠ other := fun he => hcol (he ▸ ho)
      rw [← Row.value_set_ne hne v]
      exact hagree other ho
  have hplace : ∀ {k c}, (s.rows.set row (old.set column v))[k]? = some c →
      row = k ∧ c = old.set column v ∨ row ≠ k ∧ s.rows[k]? = some c := by
    intro k c hc
    rw [List.getElem?_set] at hc
    split at hc
    · rename_i hrk
      split at hc
      · exact Or.inl ⟨hrk, (Option.some.inj hc).symm⟩
      · cases hc
    · rename_i hrk
      exact Or.inr ⟨hrk, hc⟩
  rcases hplace ha with ⟨rfl, rfl⟩ | ⟨hri, hi⟩ <;> rcases hplace hb with ⟨hrj, rfl⟩ | ⟨hrj, hj⟩
  · exact absurd hrj hij
  · exact hnew j b hrj hj
  · exact fun hagree => hnew i a hri hi hagree.symm
  · exact h hk i j a b hij hi hj

theorem Keyed.delete {s : Sheet} (h : s.Keyed) (row : Nat) : (s.delete row).Keyed := by
  intro hk i j a b hij ha hb
  simp only [Sheet.delete, List.getElem?_eraseIdx] at ha hb
  split at ha <;> split at hb
  · exact h hk i j a b hij ha hb
  · exact h hk i (j + 1) a b (by omega) ha hb
  · exact h hk (i + 1) j a b (by omega) ha hb
  · exact h hk (i + 1) (j + 1) a b (by omega) ha hb

theorem keyed_clear (s : Sheet) : s.clear.Keyed :=
  keyed_of_no_rows rfl

end Sheet

end Tabular
