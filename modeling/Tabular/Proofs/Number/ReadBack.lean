import Mathlib.Tactic.Positivity
import Mathlib.Tactic.Ring
import Tabular.Number.Shortest
import Tabular.Proofs.Number.Digits

namespace Tabular

theorem nearest_mul {d : Nat} (hd : 0 < d) (k : Nat) : nearest (k * d) d = k := by
  simp [nearest, Nat.mul_mod_left, Nat.mul_div_cancel k hd, hd]

/-- The leading bit moves with the others. -/
theorem log2_mul_two_pow {n bits : Nat} (hlow : 2 ^ bits ≤ n) (hhigh : n < 2 ^ bits * 2) (k : Nat) :
    (n * 2 ^ k).log2 = bits + k := by
  have hpos : 0 < n := Nat.lt_of_lt_of_le (Nat.two_pow_pos bits) hlow
  have hne : n * 2 ^ k ≠ 0 := by positivity
  rw [Nat.log2_eq_iff hne, Nat.pow_succ, Nat.pow_add]
  constructor
  · exact Nat.mul_le_mul_right _ hlow
  · calc n * 2 ^ k
        < 2 ^ bits * 2 * 2 ^ k := Nat.mul_lt_mul_of_pos_right hhigh (by positivity)
      _ = 2 ^ bits * 2 ^ k * 2 := by ring

/-- Of the places behind a point some are dropped, zeros all of them. -/
theorem Decimal.exponent_ofPlaces (coefficient places : Nat) :
    ∃ dropped ≤ places, (ofPlaces coefficient places).exponent = -((places - dropped : Nat) : Int) ∧
      coefficient = (ofPlaces coefficient places).coefficient * 10 ^ dropped := by
  induction places generalizing coefficient with
  | zero => exact ⟨0, Nat.le_refl 0, rfl, (Nat.mul_one _).symm⟩
  | succ places ih =>
    unfold ofPlaces
    split
    · rename_i hz
      obtain ⟨dropped, hle, he, hc⟩ := ih (coefficient / 10)
      refine ⟨dropped + 1, by omega, ?_, ?_⟩
      · rw [he, Nat.add_sub_add_right]
      · rw [Nat.pow_succ, ← Nat.mul_assoc, ← hc]
        omega
    · exact ⟨0, Nat.zero_le _, rfl, (Nat.mul_one _).symm⟩

theorem Decimal.exponent_ofPlaces_nonpos (coefficient places : Nat) :
    (ofPlaces coefficient places).exponent ≤ 0 := by
  obtain ⟨dropped, -, he, -⟩ := exponent_ofPlaces coefficient places
  omega

namespace Format

variable {f : Format}

/-- The magnitude nearest to a number of the format is its own. -/
theorem magnitude_units (f : Format) (m : Nat) {d : Nat} (hd : 0 < d) :
    f.magnitude (f.units m * d) d = m := by
  unfold magnitude
  dsimp only
  rw [Nat.mul_div_cancel _ hd]
  have hpos : 0 < 2 ^ f.fraction := Nat.two_pow_pos f.fraction
  unfold units
  simp only [Nat.pow_eq]
  split
  · rename_i hm
    have hlog : m.log2 - f.fraction = 0 := by
      rcases Nat.eq_zero_or_pos m with rfl | h
      · exact Nat.zero_sub _
      · have := (Nat.log2_lt (by omega)).mpr hm
        omega
    rw [hlog, Nat.pow_zero, Nat.mul_one, Nat.zero_mul, Nat.add_zero, nearest_mul hd]
  · rename_i hm
    have hdiv := Nat.div_add_mod m (2 ^ f.fraction)
    have hmod := Nat.mod_lt m hpos
    have hquot : 0 < m / 2 ^ f.fraction := Nat.div_pos (by omega) hpos
    generalize m / 2 ^ f.fraction = q at *
    generalize m % 2 ^ f.fraction = r at *
    have hlog : ((2 ^ f.fraction + r) * 2 ^ (q - 1)).log2 = f.fraction + (q - 1) :=
      log2_mul_two_pow (Nat.le_add_right _ _) (by omega) (q - 1)
    have hmul : (2 ^ f.fraction + r) * 2 ^ (q - 1) * d =
        (2 ^ f.fraction + r) * (d * 2 ^ (q - 1)) := by ring
    rw [hlog, Nat.add_sub_cancel_left, hmul, nearest_mul (by positivity)]
    obtain ⟨p, rfl⟩ : ∃ p, q = p + 1 := ⟨q - 1, by omega⟩
    rw [Nat.add_sub_cancel, ← hdiv]
    ring

theorem clamp_eq {d : Decimal} (h : d.exponent ≤ 0) (hd : -(2 ^ f.exponent : Nat) ≤ d.exponent) :
    d.clamp f = d.exponent := by
  unfold Decimal.clamp
  simp only [Nat.pow_eq, Int.ofNat_eq_natCast]
  omega

/-- The digits of the exact value denote the number itself. -/
theorem magnitudeOf_expansion (hf : f.depth ≤ 2 ^ f.exponent) (m : Nat) :
    f.magnitudeOf (.ofPlaces (f.expansion m) f.depth) = m := by
  obtain ⟨dropped, hle, he, hc⟩ := Decimal.exponent_ofPlaces (f.expansion m) f.depth
  have hexp := Decimal.exponent_ofPlaces_nonpos (f.expansion m) f.depth
  generalize Decimal.ofPlaces (f.expansion m) f.depth = d at *
  have hzero : d.exponent.toNat = 0 := by omega
  have hplaces : (-d.exponent).toNat = f.depth - dropped := by omega
  unfold magnitudeOf
  dsimp only
  rw [clamp_eq hexp (by omega), hzero, hplaces]
  simp only [Nat.pow_eq, Nat.pow_zero, Nat.mul_one]
  have hunits : d.coefficient * 2 ^ f.depth = f.units m * 10 ^ (f.depth - dropped) := by
    apply Nat.eq_of_mul_eq_mul_right (Nat.pow_pos (n := dropped) (show 0 < 10 by decide))
    calc d.coefficient * 2 ^ f.depth * 10 ^ dropped
        = d.coefficient * 10 ^ dropped * 2 ^ f.depth := by ring
      _ = f.units m * 5 ^ f.depth * 2 ^ f.depth := by rw [← hc]; rfl
      _ = f.units m * 10 ^ f.depth := by rw [Nat.mul_assoc, ← Nat.mul_pow]
      _ = f.units m * 10 ^ (f.depth - dropped) * 10 ^ dropped := by
        rw [Nat.mul_assoc, ← Nat.pow_add, Nat.sub_add_cancel hle]
  rw [hunits, magnitude_units f m (by positivity)]

theorem exponent_atPlace_nonpos (f : Format) (dropped coefficient : Nat) :
    (f.atPlace dropped coefficient).exponent ≤ 0 := by
  unfold atPlace
  split
  · exact Decimal.exponent_ofPlaces_nonpos _ _
  · exact Int.le_refl 0

theorem candidate_readsBack {m count : Nat} {d : Decimal} (h : f.candidate m count = some d) :
    f.magnitudeOf d = m ∧ d.exponent ≤ 0 := by
  unfold candidate at h
  dsimp only at h
  split at h
  · rename_i hlow
    cases h
    rw [Bool.and_eq_true, decide_eq_true_eq] at hlow
    exact ⟨hlow.1, exponent_atPlace_nonpos f _ _⟩
  · split at h
    · rename_i hhigh
      cases h
      exact ⟨of_decide_eq_true hhigh, exponent_atPlace_nonpos f _ _⟩
    · cases h

theorem shortest_readsBack (hf : f.depth ≤ 2 ^ f.exponent) (m : Nat) :
    f.magnitudeOf (f.shortest m) = m ∧ (f.shortest m).exponent ≤ 0 := by
  unfold shortest
  cases hs : (List.range 17).findSome? fun n => f.candidate m (n + 1) with
  | none => exact ⟨magnitudeOf_expansion hf m, Decimal.exponent_ofPlaces_nonpos _ _⟩
  | some d =>
    obtain ⟨n, -, hn⟩ := List.exists_of_findSome?_eq_some hs
    exact candidate_readsBack hn

end Format

namespace Binary

variable {f : Format}

theorem toLower_of_isDigit {c : Char} (h : c.isDigit = true) : c.toLower = c := by
  simp only [Char.isDigit, Bool.and_eq_true, decide_eq_true_eq] at h
  unfold Char.toLower
  rw [dif_neg]
  intro hc
  exact absurd (UInt32.le_trans hc.1 h.2) (by decide)

/-- Digits are neither of the words that a number may be spelled with. -/
theorem readUnsigned_digits {cs : List Char} (h : Unsigned cs) (negative : Bool) :
    readUnsigned (f := f) negative cs = (Decimal.read cs).map (ofDecimal negative) := by
  obtain ⟨c, tail, rfl, hc⟩ := h.head
  unfold readUnsigned
  dsimp only
  rw [List.map_cons, toLower_of_isDigit hc, if_neg, if_neg]
  · rintro (hword | hword) <;> exact ne_of_isDigit hc (by decide) (List.cons.inj hword).1
  · intro hword
    exact ne_of_isDigit hc (by decide) (List.cons.inj hword).1

theorem read_sign {cs : List Char} (h : Unsigned cs) (negative : Bool) :
    read (f := f) (toChars.sign negative ++ cs) = readUnsigned negative cs := by
  cases negative with
  | true => rfl
  | false =>
    obtain ⟨c, tail, rfl, hc⟩ := h.head
    dsimp only [toChars.sign, List.nil_append]
    unfold read
    split
    · rename_i hminus
      exact absurd (List.cons.inj hminus).1 (ne_of_isDigit hc (by decide))
    · rename_i hplus
      exact absurd (List.cons.inj hplus).1 (ne_of_isDigit hc (by decide))
    · rfl

theorem read_toChars (hf : f.depth ≤ 2 ^ f.exponent) {x : Binary f} (h : x.isFinite = true) :
    read x.toChars = some x := by
  cases x with
  | nan => cases h
  | infinite negative => cases h
  | finite negative m =>
    obtain ⟨hm, he⟩ := Format.shortest_readsBack hf m
    change read (toChars.sign negative ++ (f.shortest m).toChars) = _
    rw [read_sign (Decimal.unsigned_toChars he), readUnsigned_digits (Decimal.unsigned_toChars he),
      Decimal.read_toChars he]
    simp [ofDecimal, hm]

theorem signed_toChars (hf : f.depth ≤ 2 ^ f.exponent) {x : Binary f} (h : x.isFinite = true) :
    Signed x.toChars := by
  cases x with
  | nan => cases h
  | infinite negative => cases h
  | finite negative m =>
    refine ⟨_, Decimal.unsigned_toChars (Format.shortest_readsBack hf m).2, ?_⟩
    cases negative with
    | true => exact Or.inr rfl
    | false => exact Or.inl rfl

end Binary

end Tabular
