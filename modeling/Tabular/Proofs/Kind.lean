import Tabular.Proofs.Number.ReadBack
import Tabular.Proofs.Token.Spelling

namespace Tabular
open Text Unicode

/-- A type is read as its keyword, or as a text of some width in digits. -/
theorem Kind.ofText?_eq_some {text : String} {kind : Kind} :
    ofText? text = some kind ↔
      (trim text.toList).map Char.toLower = kind.keyword.toList ∨
        kind = .text ∧ ∃ digits, Digits digits ∧
          (trim text.toList).map Char.toLower = "varchar(".toList ++ (digits ++ [')']) := by
  unfold ofText?
  dsimp only
  generalize (trim text.toList).map Char.toLower = word
  constructor
  · intro h
    split_ifs at h
    case neg =>
      obtain ⟨width, hwidth, h⟩ := Option.bind_eq_some_iff.mp h
      obtain ⟨digits, hdigits, h⟩ := Option.bind_eq_some_iff.mp h
      rw [List.isPrefixOf?_eq_some_iff_append_eq] at hwidth
      rw [List.isSuffixOf?_eq_some_iff_append_eq] at hdigits
      split at h
      · rename_i hall
        cases h
        rw [Bool.and_eq_true, List.all_eq_true] at hall
        exact Or.inr ⟨rfl, digits, ⟨by simpa using hall.1, hall.2⟩, by rw [hdigits, hwidth]⟩
      · cases h
    all_goals
      cases h
      exact Or.inl ‹_›
  · rintro (rfl | ⟨rfl, digits, hdigits, rfl⟩)
    · cases kind <;> rfl
    · have hopen : ∀ letters : List Char, '(' ∉ letters →
          "varchar(".toList ++ (digits ++ [')']) ≠ letters := by
        rintro letters hletters rfl
        exact hletters (List.mem_append_left _ (by decide))
      have hprefix : "varchar(".toList.isPrefixOf? ("varchar(".toList ++ (digits ++ [')'])) =
          some (digits ++ [')']) := List.isPrefixOf?_eq_some_iff_append_eq.mpr rfl
      have hsuffix : [')'].isSuffixOf? (digits ++ [')']) = some digits :=
        List.isSuffixOf?_eq_some_iff_append_eq.mpr rfl
      have hall : (!digits.isEmpty && digits.all Char.isDigit) = true := by
        rw [Bool.and_eq_true, List.all_eq_true]
        exact ⟨by simpa using hdigits.nonempty, hdigits.digit⟩
      rw [if_neg (hopen _ (by decide)), if_neg (hopen _ (by decide)),
        if_neg (hopen _ (by decide)), if_neg (hopen _ (by decide)),
        if_neg (hopen _ (by decide)), hprefix]
      change (do
        let found ← [')'].isSuffixOf? (digits ++ [')'])
        if !found.isEmpty && found.all Char.isDigit then some Kind.text else none) = _
      rw [hsuffix]
      exact if_pos hall

namespace ColumnSpec

/-- The type of a column as it is read, with its width. -/
def typeText (spec : ColumnSpec) : String :=
  match spec.width with
  | some width => s!"{spec.typeWord}({width})"
  | none => spec.typeWord

/-- The keyword of the kind, whichever of its letters are capitals; only texts take a width. -/
def Declares (spec : ColumnSpec) (kind : Kind) : Prop :=
  spec.typeWord.toList.map Char.toLower = kind.keyword.toList ∧ (spec.width = none ∨ kind = .text)

instance (spec : ColumnSpec) (kind : Kind) : Decidable (spec.Declares kind) :=
  inferInstanceAs (Decidable (_ ∧ _))

end ColumnSpec

/-- A capital is made a letter again, and nothing else changes. -/
theorem toLower_ne_paren {c : Char} (h : isWordPart c = true) : c.toLower ≠ '(' := by
  intro hc
  unfold Char.toLower at hc
  split at hc
  case isTrue hcapital =>
    have hfirst : 65 ≤ c.toNat := hcapital.1
    have hlast : c.toNat ≤ 90 := hcapital.2
    have hsum : (c.val + ('a'.val - 'A'.val)).toNat = 40 := congrArg Char.toNat hc
    rw [UInt32.toNat_add] at hsum
    have hparen : (c.toNat + 32) % 4294967296 = 40 := hsum
    omega
  case isFalse =>
    rw [hc] at h
    cases h

namespace ColumnSpec

variable {spec : ColumnSpec}

theorem paren_not_mem_typeWord (h : Worded spec.typeWord.toList) :
    '(' ∉ spec.typeWord.toList.map Char.toLower := by
  intro hm
  obtain ⟨c, hc, heq⟩ := List.mem_map.mp hm
  exact toLower_ne_paren (h.all c hc) heq

theorem trim_typeText (h : Worded spec.typeWord.toList) :
    (trim spec.typeText.toList).map Char.toLower =
      spec.typeWord.toList.map Char.toLower ++
        match spec.width with
        | some width => '(' :: (Nat.toDigits 10 width ++ [')'])
        | none => [] := by
  unfold typeText
  cases spec.width with
  | none =>
    rw [h.word.title.trim]
    exact (List.append_nil _).symm
  | some width =>
    have htext : (s!"{spec.typeWord}({width})").toList =
        spec.typeWord.toList ++ '(' :: (Nat.toDigits 10 width ++ [')']) := by
      change (spec.typeWord ++ "(" ++ toString width ++ ")").toList = _
      simp
    have hword : Word (spec.typeWord.toList ++ '(' :: (Nat.toDigits 10 width ++ [')'])) := by
      have hopen : Word ['('] := by decide
      have hclose : Word [')'] := by decide
      exact h.word.append (hopen.append ((digits_toDigits width).word.append hclose))
    have hdigits : (Nat.toDigits 10 width).map Char.toLower = Nat.toDigits 10 width :=
      (List.map_congr_left fun c hc =>
        Binary.toLower_of_isDigit ((digits_toDigits width).digit c hc)).trans (List.map_id _)
    dsimp only
    rw [htext, hword.title.trim, List.map_append, List.map_cons, List.map_append, hdigits]
    rfl

/-- A word and its width are read as the kind they declare. -/
theorem ofText?_typeText (h : Worded spec.typeWord.toList) {kind : Kind} :
    Kind.ofText? spec.typeText = some kind ↔ spec.Declares kind := by
  have hparen := paren_not_mem_typeWord h
  rw [Kind.ofText?_eq_some, trim_typeText h]
  unfold Declares
  cases spec.width with
  | none =>
    rw [List.append_nil]
    constructor
    · rintro (hword | ⟨-, digits, -, hword⟩)
      · exact ⟨hword, Or.inl rfl⟩
      · refine absurd ?_ hparen
        rw [hword]
        exact List.mem_append_left _ (by decide)
    · exact fun hword => Or.inl hword.1
  | some width =>
    dsimp only
    have hclosed : '(' ∉ Nat.toDigits 10 width ++ [')'] := by
      intro hm
      rcases List.mem_append.mp hm with hm | hm
      · exact absurd ((digits_toDigits width).digit _ hm) (by decide)
      · exact absurd hm (by decide)
    constructor
    · rintro (hword | ⟨rfl, digits, -, hword⟩)
      · have hopen : '(' ∈ kind.keyword.toList := by
          rw [← hword]
          exact List.mem_append_right _ List.mem_cons_self
        cases kind <;> exact absurd hopen (by decide)
      · have hparts : spec.typeWord.toList.map Char.toLower ++
            '(' :: (Nat.toDigits 10 width ++ [')']) =
              "varchar".toList ++ '(' :: (digits ++ [')']) := hword
        exact ⟨((List.append_cons_inj_of_notMem hparen hclosed).mp hparts).1, Or.inr rfl⟩
    · rintro ⟨hword, hwidth | rfl⟩
      · cases hwidth
      · refine Or.inr ⟨rfl, Nat.toDigits 10 width, digits_toDigits width, ?_⟩
        rw [hword]
        rfl

end ColumnSpec

end Tabular
