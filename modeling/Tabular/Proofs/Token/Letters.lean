import Tabular.Token.Scan

namespace Tabular
open Unicode

theorem Unicode.within_disjoint {runs others : List Run} {c : Char}
    (h : ∀ run ∈ runs, ∀ other ∈ others, run.2 < other.1 ∨ other.2 < run.1)
    (hc : within runs c = true) : within others c = false := by
  obtain ⟨run, hrun, hlow, hhigh⟩ := within_iff.mp hc
  rw [Bool.eq_false_iff]
  intro ho
  obtain ⟨other, hother, hlow', hhigh'⟩ := within_iff.mp ho
  have := h run hrun other hother
  omega

def asciiDigits : List Run := [(0x30, 0x39)]

/-- The runs of ASCII characters that a word may begin with. -/
def asciiStarts : List Run := [(0x41, 0x5a), (0x5f, 0x5f), (0x61, 0x7a)]

theorem within_of_isDigit {c : Char} (h : c.isDigit = true) : within asciiDigits c = true := by
  obtain ⟨hlow, hhigh⟩ := Bool.and_eq_true_iff.mp h
  exact within_iff.mpr ⟨(0x30, 0x39), by decide, of_decide_eq_true hlow, of_decide_eq_true hhigh⟩

theorem within_of_isAlpha {c : Char} (h : c.isAlpha = true) : within asciiStarts c = true := by
  rcases Bool.or_eq_true_iff.mp h with hupper | hlower
  · obtain ⟨hlow, hhigh⟩ := of_decide_eq_true hupper
    exact within_iff.mpr ⟨(0x41, 0x5a), by decide, hlow, hhigh⟩
  · obtain ⟨hlow, hhigh⟩ := Bool.and_eq_true_iff.mp hlower
    exact within_iff.mpr ⟨(0x61, 0x7a), by decide, of_decide_eq_true hlow, of_decide_eq_true hhigh⟩

theorem within_append (runs others : List Run) (c : Char) :
    within (runs ++ others) c = (within runs c || within others c) :=
  List.any_append

theorem within_of_isWordStart {c : Char} (h : isWordStart c = true) :
    within (asciiStarts ++ letters) c = true := by
  rw [within_append]
  simp only [isWordStart, isAlphabetic, Bool.or_eq_true, Bool.and_eq_true, beq_iff_eq] at h ⊢
  rcases h with (ha | ⟨-, hl⟩) | rfl
  · exact Or.inl (within_of_isAlpha ha)
  · exact Or.inr hl
  · exact Or.inl (by decide)

/-- A word goes on with what it may begin with, and with digits and other numerals. -/
theorem isWordPart_eq (c : Char) : isWordPart c = (isWordStart c || isNumeric c) :=
  Bool.or_right_comm _ _ _

theorem within_of_isWordPart {c : Char} (h : isWordPart c = true) :
    within (asciiStarts ++ letters ++ (asciiDigits ++ numerals)) c = true := by
  rw [within_append, within_append asciiDigits]
  simp only [isWordPart_eq, isNumeric, Bool.or_eq_true, Bool.and_eq_true] at h ⊢
  rcases h with hs | hd | ⟨-, hn⟩
  · exact Or.inl (within_of_isWordStart hs)
  · exact Or.inr (Or.inl (within_of_isDigit hd))
  · exact Or.inr (Or.inr hn)

theorem isSpace_of_isWordPart {c : Char} (h : isWordPart c = true) : isSpace c = false :=
  within_disjoint (by decide +kernel) (within_of_isWordPart h)

theorem isWordPart_of_isWordStart {c : Char} (h : isWordStart c = true) : isWordPart c = true := by
  rw [isWordPart_eq, h, Bool.true_or]

theorem isWordPart_of_isSpace {c : Char} (h : isSpace c = true) : isWordPart c = false := by
  rw [Bool.eq_false_iff]
  intro hw
  rw [isSpace_of_isWordPart hw] at h
  cases h

theorem ne_of_isSpace {c d : Char} (hc : isSpace c = true) (hd : isSpace d = false) : c ≠ d := by
  rintro rfl
  exact absurd (hc.symm.trans hd) nofun

theorem isWordStart_of_isAlpha {c : Char} (h : c.isAlpha = true) : isWordStart c = true := by
  simp [isWordStart, isAlphabetic, h]

theorem isDigit_of_isWordStart {c : Char} (h : isWordStart c = true) : c.isDigit = false := by
  have hdigits : within asciiDigits c = false :=
    within_disjoint (by decide +kernel) (within_of_isWordStart h)
  rw [Bool.eq_false_iff]
  intro hd
  rw [within_of_isDigit hd] at hdigits
  cases hdigits

theorem isAlpha_of_isUpper_toUpper {c : Char} (h : c.toUpper.isUpper = true) :
    c.isAlpha = true := by
  unfold Char.toUpper at h
  split at h
  · rename_i hbounds
    obtain ⟨hlow, hhigh⟩ := hbounds
    exact Bool.or_eq_true_iff.mpr (Or.inr (Bool.and_eq_true_iff.mpr
      ⟨decide_eq_true hlow, decide_eq_true hhigh⟩))
  · exact Bool.or_eq_true_iff.mpr (Or.inl h)

/-- The capital of an ASCII letter is one letter. -/
theorem capitals_of_isAlpha {c : Char} (h : c.isAlpha = true) :
    Keyword.capitals c = [c.toUpper] := by
  unfold Keyword.capitals
  split
  case h_11 => rfl
  all_goals exact absurd h (by decide)

end Tabular
