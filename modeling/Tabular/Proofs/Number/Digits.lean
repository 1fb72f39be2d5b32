import Mathlib.Data.List.TakeWhile
import Tabular.Number.Decimal

namespace Tabular

/-- One digit or more, and nothing else. -/
structure Digits (cs : List Char) : Prop where
  nonempty : cs ≠ []
  digit : ∀ c ∈ cs, c.isDigit = true

/-- Digits, with a point between them or without one. -/
inductive Unsigned : List Char → Prop where
  | whole {ds : List Char} (h : Digits ds) : Unsigned ds
  | pointed {ds part : List Char} (h : Digits ds) (hp : Digits part) : Unsigned (ds ++ '.' :: part)

/-- An unsigned number or its negative. -/
def Signed (cs : List Char) : Prop :=
  ∃ digits, Unsigned digits ∧ (cs = digits ∨ cs = '-' :: digits)

theorem digits_toDigits (n : Nat) : Digits (Nat.toDigits 10 n) :=
  ⟨Nat.toDigits_ne_nil, fun _ hc => Nat.isDigit_of_mem_toDigits (by decide) (by decide) hc⟩

/-- A number starts with a digit, whatever follows it. -/
theorem Digits.head {ds : List Char} (h : Digits ds) (rest : List Char) :
    ∃ c tail, ds ++ rest = c :: tail ∧ c.isDigit = true := by
  obtain ⟨c, tail, rfl⟩ := List.exists_cons_of_ne_nil h.nonempty
  exact ⟨c, tail ++ rest, rfl, h.digit c List.mem_cons_self⟩

theorem Unsigned.head {cs : List Char} (h : Unsigned cs) :
    ∃ c tail, cs = c :: tail ∧ c.isDigit = true := by
  cases h with
  | whole hd => simpa using hd.head []
  | pointed hd => exact hd.head _

theorem ne_of_isDigit {c d : Char} (hc : c.isDigit = true) (hd : d.isDigit = false) : c ≠ d := by
  rintro rfl
  exact absurd (hc.symm.trans hd) nofun

theorem Unsigned.not_feed {cs : List Char} (h : Unsigned cs) : '\n' ∉ cs := by
  have hdigits : ∀ {ds}, Digits ds → '\n' ∉ ds :=
    fun hd hm => absurd (hd.digit _ hm) (by decide)
  cases h with
  | whole hd => exact hdigits hd
  | pointed hd hp =>
    intro hm
    rcases List.mem_append.mp hm with hm | hm
    · exact hdigits hd hm
    · exact hdigits hp (List.mem_of_ne_of_mem (by decide) hm)

theorem Signed.not_feed {cs : List Char} (h : Signed cs) : '\n' ∉ cs := by
  obtain ⟨digits, hu, rfl | rfl⟩ := h
  · exact hu.not_feed
  · exact fun hm => hu.not_feed (List.mem_of_ne_of_mem (by decide) hm)

theorem Digits.readDigits {ds : List Char} (h : Digits ds) :
    readDigits ds = some (Nat.ofDigitChars 10 ds 0) := by
  have hall : ds.all Char.isDigit = true := List.all_eq_true.mpr h.digit
  have hne : ds.isEmpty = false := by
    rw [List.isEmpty_eq_false_iff]
    exact h.nonempty
  simp [Tabular.readDigits, hall, hne]

theorem readDigits_toDigits (n : Nat) : readDigits (Nat.toDigits 10 n) = some n := by
  rw [(digits_toDigits n).readDigits, Nat.ofDigitChars_ten_toDigits]

theorem readNatural_toDigits_eq (limit n : Nat) :
    readNatural limit (Nat.toDigits 10 n) = if n ≤ limit then some n else none := by
  obtain ⟨c, tail, heq, hc⟩ := (Unsigned.whole (digits_toDigits n)).head
  have hread := readDigits_toDigits n
  unfold readNatural
  rw [heq] at hread ⊢
  split
  · rename_i hplus
    exact absurd (List.cons.inj hplus).1 (ne_of_isDigit hc (by decide))
  · dsimp only
    rw [hread, Option.filter_some]
    simp only [decide_eq_true_eq]

theorem readNatural_toDigits {limit n : Nat} (h : n ≤ limit) :
    readNatural limit (Nat.toDigits 10 n) = some n :=
  (readNatural_toDigits_eq limit n).trans (if_pos h)

theorem toList_toString_nat (n : Nat) : (toString n).toList = Nat.toDigits 10 n := by
  rw [Nat.toString_eq_ofList_toDigits, String.toList_ofList]

theorem toList_toString_int (i : Int) : (toString i).toList =
    if 0 ≤ i then Nat.toDigits 10 i.toNat else '-' :: Nat.toDigits 10 (-i).toNat := by
  rw [Int.toString_eq_repr, Int.repr_eq_if]
  split
  · exact Nat.toList_repr
  · rw [String.toList_append, Nat.toList_repr]
    rfl

theorem signed_toString_int (i : Int) : Signed (toString i).toList := by
  rw [toList_toString_int]
  split
  · exact ⟨_, .whole (digits_toDigits _), Or.inl rfl⟩
  · exact ⟨_, .whole (digits_toDigits _), Or.inr rfl⟩

/-- Digits with no sign in front of them are read as what they come to. -/
theorem Digits.readInteger {ds : List Char} (h : Digits ds) :
    readInteger ds = some (Int.ofNat (Nat.ofDigitChars 10 ds 0)) := by
  obtain ⟨c, tail, heq, hc⟩ := (Unsigned.whole h).head
  have hread := h.readDigits
  unfold Tabular.readInteger
  rw [heq] at hread ⊢
  split
  · rename_i hplus
    exact absurd (List.cons.inj hplus).1 (ne_of_isDigit hc (by decide))
  · rename_i hminus
    exact absurd (List.cons.inj hminus).1 (ne_of_isDigit hc (by decide))
  · rw [hread]
    rfl

theorem Digits.readInteger_minus {ds : List Char} (h : Digits ds) :
    Tabular.readInteger ('-' :: ds) = some (-Int.ofNat (Nat.ofDigitChars 10 ds 0)) := by
  change (Tabular.readDigits ds).map (fun n => -Int.ofNat n) = _
  rw [h.readDigits]
  rfl

theorem readInteger_toString (i : Int) : readInteger (toString i).toList = some i := by
  rw [toList_toString_int]
  split
  · rename_i hi
    rw [(digits_toDigits i.toNat).readInteger, Nat.ofDigitChars_ten_toDigits]
    exact congrArg some (Int.toNat_of_nonneg hi)
  · rw [(digits_toDigits (-i).toNat).readInteger_minus, Nat.ofDigitChars_ten_toDigits]
    have hneg : -Int.ofNat (-i).toNat = i := by
      rw [Int.ofNat_eq_natCast]
      omega
    exact congrArg some hneg

/-- What is read within the 32 bits is the integer itself. -/
theorem readInt32_eq_some {cs : List Char} {n : Int32} :
    readInt32 cs = some n ↔ readInteger cs = some n.toInt := by
  unfold readInt32
  rw [Option.map_eq_some_iff]
  constructor
  · rintro ⟨i, hi, rfl⟩
    obtain ⟨hread, hrange⟩ := Option.filter_eq_some_iff.mp hi
    obtain ⟨hmin, hmax⟩ := of_decide_eq_true hrange
    rw [Int32.toInt_minValue] at hmin
    rw [Int32.toInt_maxValue] at hmax
    rw [Int32.toInt_ofInt_of_le hmin (by omega), hread]
  · intro h
    exact ⟨n.toInt, Option.filter_eq_some_iff.mpr
      ⟨h, decide_eq_true ⟨n.minValue_le_toInt, n.toInt_le⟩⟩, n.ofInt_toInt⟩

theorem readInt32_toString (i : Int32) : readInt32 (toString i.toInt).toList = some i :=
  readInt32_eq_some.mpr (readInteger_toString i.toInt)

namespace Decimal

/-- Digits end where something else begins. -/
theorem span_digits {ds : List Char} (h : Digits ds) (rest : List Char)
    (hr : ∀ c ∈ rest.head?, c.isDigit = false) :
    (ds ++ rest).takeWhile Char.isDigit = ds ∧ (ds ++ rest).dropWhile Char.isDigit = rest := by
  rw [List.takeWhile_append_of_pos h.digit, List.dropWhile_append_of_pos h.digit]
  cases rest with
  | nil => exact ⟨List.append_nil ds, rfl⟩
  | cons c rest =>
    have hc := hr c rfl
    rw [List.takeWhile_cons, List.dropWhile_cons, hc]
    exact ⟨List.append_nil ds, rfl⟩

theorem read_whole {ds : List Char} (h : Digits ds) :
    read ds = some ⟨Nat.ofDigitChars 10 ds 0, 0⟩ := by
  obtain ⟨ht, hd⟩ := span_digits h [] nofun
  rw [List.append_nil] at ht hd
  unfold read
  rw [ht, hd]
  simp [h.readDigits, readExponent]

theorem read_pointed {ds part : List Char} (h : Digits ds) (hp : Digits part) :
    read (ds ++ '.' :: part) = some ⟨Nat.ofDigitChars 10 (ds ++ part) 0, -part.length⟩ := by
  have hpoint : ∀ c ∈ ('.' :: part).head?, c.isDigit = false := by
    intro c hc
    cases hc
    rfl
  obtain ⟨ht, hd⟩ := span_digits h _ hpoint
  obtain ⟨htp, hdp⟩ := span_digits hp [] nofun
  rw [List.append_nil] at htp hdp
  have hall : Digits (ds ++ part) :=
    ⟨by simp [h.nonempty], fun c hc => (List.mem_append.mp hc).elim (h.digit c) (hp.digit c)⟩
  unfold read
  rw [ht, hd]
  simp [htp, hdp, hall.readDigits, readExponent]

/-- Zeros in front make a number as long as is asked, and leave it the number it was. -/
theorem ofDigitChars_fill (n count : Nat) :
    let filled := List.replicate (count - (Nat.toDigits 10 n).length) '0' ++ Nat.toDigits 10 n
    count ≤ filled.length ∧ (∀ c ∈ filled, c.isDigit = true) ∧
      Nat.ofDigitChars 10 filled 0 = n := by
  intro filled
  refine ⟨?_, ?_, ?_⟩
  · rw [List.length_append, List.length_replicate]
    omega
  · intro c hc
    rcases List.mem_append.mp hc with hc | hc
    · rw [List.eq_of_mem_replicate hc]
      rfl
    · exact (digits_toDigits n).digit c hc
  · rw [Nat.ofDigitChars_append, Nat.ofDigitChars_replicate_zero, Nat.mul_zero,
      Nat.ofDigitChars_ten_toDigits]

/-- Digits are cut into two numbers anywhere but at their ends. -/
theorem digits_cut {cs : List Char} {n : Nat} (h : ∀ c ∈ cs, c.isDigit = true) (hpos : 0 < n)
    (hlt : n < cs.length) : Digits (cs.take n) ∧ Digits (cs.drop n) := by
  refine ⟨⟨?_, fun c hc => h c (List.mem_of_mem_take hc)⟩,
    ⟨?_, fun c hc => h c (List.mem_of_mem_drop hc)⟩⟩
  · intro hnil
    have hlen := congrArg List.length hnil
    simp only [List.length_take, List.length_nil] at hlen
    omega
  · intro hnil
    have hlen := congrArg List.length hnil
    simp only [List.length_drop, List.length_nil] at hlen
    omega

/-- A decimal without a positive exponent is written as a whole number, or with as many places
behind its point as the exponent says. -/
theorem toChars_of_nonpos {d : Decimal} (h : d.exponent ≤ 0) :
    d.exponent = 0 ∧ d.toChars = Nat.toDigits 10 d.coefficient ∨
      ∃ ds part, Digits ds ∧ Digits part ∧ d.toChars = ds ++ '.' :: part ∧
        Nat.ofDigitChars 10 (ds ++ part) 0 = d.coefficient ∧ d.exponent = -part.length := by
  unfold toChars
  dsimp only
  by_cases hz : (-d.exponent).toNat = 0
  · have he : d.exponent = 0 := by omega
    rw [if_pos hz, he]
    exact Or.inl ⟨rfl, List.append_nil _⟩
  · rw [if_neg hz]
    obtain ⟨hlen, hdigit, hvalue⟩ := ofDigitChars_fill d.coefficient ((-d.exponent).toNat + 1)
    generalize
      List.replicate ((-d.exponent).toNat + 1 - (Nat.toDigits 10 d.coefficient).length) '0' ++
        Nat.toDigits 10 d.coefficient = filled at hlen hdigit hvalue ⊢
    obtain ⟨hds, hpart⟩ := digits_cut (n := filled.length - (-d.exponent).toNat) hdigit
      (by omega) (by omega)
    refine Or.inr ⟨_, _, hds, hpart, rfl, ?_, ?_⟩
    · rw [List.take_append_drop]
      exact hvalue
    · rw [List.length_drop]
      omega

theorem unsigned_toChars {d : Decimal} (h : d.exponent ≤ 0) : Unsigned d.toChars := by
  rcases toChars_of_nonpos h with ⟨-, heq⟩ | ⟨ds, part, hd, hp, heq, -, -⟩
  · rw [heq]
    exact .whole (digits_toDigits d.coefficient)
  · rw [heq]
    exact .pointed hd hp

theorem read_toChars {d : Decimal} (h : d.exponent ≤ 0) : read d.toChars = some d := by
  rcases toChars_of_nonpos h with ⟨he, heq⟩ | ⟨ds, part, hd, hp, heq, hc, he⟩
  · rw [heq, read_whole (digits_toDigits d.coefficient), Nat.ofDigitChars_ten_toDigits, ← he]
  · rw [heq, read_pointed hd hp, hc, ← he]

end Decimal

end Tabular
