import Tabular.Proofs.Number.Digits
import Tabular.Proofs.Result
import Tabular.Proofs.Token.Letters

namespace Tabular

/-- Characters as they make up a keyword or an identifier. -/
structure Worded (cs : List Char) : Prop where
  start : ∃ c ∈ cs.head?, isWordStart c = true
  part : ∀ c ∈ cs.tail, isWordPart c = true

/-- A word that is no keyword, however its letters are written. -/
structure Identifier (cs : List Char) : Prop where
  worded : Worded cs
  free : ∀ k : Keyword, cs.flatMap Keyword.capitals ≠ k.spelling

/-- Digits, with a minus in front of them or without. -/
def Whole (cs : List Char) : Prop :=
  ∃ ds, Digits ds ∧ (cs = ds ∨ cs = '-' :: ds)

/-- A whole number and a point, with or without digits behind it. -/
def Pointed (cs : List Char) : Prop :=
  ∃ whole part, Whole whole ∧ (∀ c ∈ part, c.isDigit = true) ∧ cs = whole ++ '.' :: part

def Numeral (cs : List Char) : Prop :=
  Whole cs ∨ Pointed cs

/-- Every token but the end mark can be written, provided that its text has the form of its kind. -/
def Token.WellFormed : Token → Prop
  | .keyword _ | .symbol _ | .text _ => True
  | .ident name => Identifier name.toList
  | .number digits => Numeral digits.toList
  | .stop => False

theorem Keyword.mem_all (k : Keyword) : k ∈ all := by
  cases k <;> decide

theorem ofWord?_eq_none_iff {word : List Char} :
    Keyword.ofWord? word = none ↔ ∀ k : Keyword, word.flatMap Keyword.capitals ≠ k.spelling := by
  unfold Keyword.ofWord?
  rw [List.find?_eq_none]
  constructor
  · intro h k heq
    exact h k k.mem_all (beq_iff_eq.mpr heq.symm)
  · intro h k _ heq
    exact h k (beq_iff_eq.mp heq).symm

namespace Worded

theorem single {c : Char} (h : isWordStart c = true) : Worded [c] :=
  ⟨⟨c, rfl, h⟩, fun _ hc => absurd hc List.not_mem_nil⟩

theorem snoc {cs : List Char} (h : Worded cs) {c : Char} (hc : isWordPart c = true) :
    Worded (cs ++ [c]) := by
  obtain ⟨⟨d, hd, hstart⟩, hpart⟩ := h
  cases cs with
  | nil => cases hd
  | cons e es =>
    refine ⟨⟨d, hd, hstart⟩, ?_⟩
    rw [List.cons_append, List.tail_cons]
    exact List.forall_mem_append.mpr ⟨hpart, List.forall_mem_singleton.mpr hc⟩

theorem exists_cons {cs : List Char} (h : Worded cs) :
    ∃ c rest, cs = c :: rest ∧ isWordStart c = true := by
  obtain ⟨c, hc, hstart⟩ := h.start
  cases cs with
  | nil => cases hc
  | cons d rest =>
    cases hc
    exact ⟨c, rest, rfl, hstart⟩

theorem all {cs : List Char} (h : Worded cs) : ∀ c ∈ cs, isWordPart c = true := by
  obtain ⟨c, rest, rfl, hstart⟩ := h.exists_cons
  exact List.forall_mem_cons.mpr ⟨isWordPart_of_isWordStart hstart, h.part⟩

theorem wellFormed_ofWord {cs : List Char} (h : Worded cs) : (Token.ofWord cs).WellFormed := by
  unfold Token.ofWord
  split
  · trivial
  · rename_i hnone
    change Identifier (String.ofList cs).toList
    rw [String.toList_ofList]
    exact ⟨h, ofWord?_eq_none_iff.mp hnone⟩

end Worded

theorem Digits.single {c : Char} (h : c.isDigit = true) : Digits [c] :=
  ⟨List.cons_ne_nil c [], List.forall_mem_singleton.mpr h⟩

theorem Digits.snoc {ds : List Char} (h : Digits ds) {c : Char} (hc : c.isDigit = true) :
    Digits (ds ++ [c]) :=
  ⟨List.append_ne_nil_of_left_ne_nil h.nonempty [c],
    List.forall_mem_append.mpr ⟨h.digit, List.forall_mem_singleton.mpr hc⟩⟩

theorem Whole.snoc {cs : List Char} (h : Whole cs) {c : Char} (hc : c.isDigit = true) :
    Whole (cs ++ [c]) := by
  obtain ⟨ds, hds, rfl | rfl⟩ := h
  · exact ⟨_, hds.snoc hc, Or.inl rfl⟩
  · exact ⟨_, hds.snoc hc, Or.inr rfl⟩

theorem Pointed.snoc {cs : List Char} (h : Pointed cs) {c : Char} (hc : c.isDigit = true) :
    Pointed (cs ++ [c]) := by
  obtain ⟨whole, part, hw, hp, rfl⟩ := h
  refine ⟨whole, part ++ [c], hw, ?_, by simp⟩
  exact List.forall_mem_append.mpr ⟨hp, List.forall_mem_singleton.mpr hc⟩

namespace Scan

/-- What has been read of a word or of a number looks like one. -/
def Apt : Scan → Prop
  | .word read => Worded read.reverse
  | .number read false => Whole read.reverse
  | .number read true => Pointed read.reverse
  | _ => True

/-- The tokens of a result are well formed, and the one begun can become so. -/
def Delivers (result : Except SyntaxFault (List Token × Scan)) : Prop :=
  ∀ tokens scan, result = .ok (tokens, scan) → (∀ t ∈ tokens, t.WellFormed) ∧ scan.Apt

theorem delivers_error (fault : SyntaxFault) : Delivers (.error fault) := nofun

theorem delivers_ok {tokens : List Token} {scan : Scan} (ht : ∀ t ∈ tokens, t.WellFormed)
    (hs : scan.Apt) : Delivers (.ok (tokens, scan)) := by
  intro _ _ h
  cases h
  exact ⟨ht, hs⟩

/-- No token ends with the character. -/
theorem delivers_next {scan : Scan} (hs : scan.Apt) : Delivers (.ok ([], scan)) :=
  delivers_ok (fun _ ht => absurd ht List.not_mem_nil) hs

theorem delivers_symbol (symbol : Symbol) : Delivers (.ok ([.symbol symbol], .idle)) :=
  delivers_ok (List.forall_mem_singleton.mpr trivial) trivial

theorem delivers_start (c : Char) : Delivers (start c) := by
  unfold start
  split
  case h_13 =>
    split
    · exact delivers_next trivial
    · split
      · rename_i hd
        exact delivers_next ⟨[c], .single hd, Or.inl rfl⟩
      · split
        · rename_i hw
          exact delivers_next (Worded.single hw)
        · exact delivers_error _
  all_goals first | exact delivers_symbol _ | exact delivers_next trivial

theorem delivers_after {token : Token} (ht : token.WellFormed) (c : Char) :
    Delivers (after token c) := by
  intro tokens scan h
  obtain ⟨⟨more, next⟩, hs, heq⟩ := map_eq_ok.mp h
  obtain ⟨hmore, hnext⟩ := delivers_start c more next hs
  cases heq
  exact ⟨List.forall_mem_cons.mpr ⟨ht, hmore⟩, hnext⟩

theorem Apt.numeral {read : List Char} {dotted : Bool} (h : (number read dotted).Apt) :
    (Token.number (String.ofList read.reverse)).WellFormed := by
  change Numeral (String.ofList read.reverse).toList
  rw [String.toList_ofList]
  cases dotted with
  | false => exact Or.inl h
  | true => exact Or.inr h

/-- A digit goes on with a number before the point as behind it. -/
theorem Apt.digit {read : List Char} {dotted : Bool} (h : (number read dotted).Apt) {c : Char}
    (hc : c.isDigit = true) : (number (c :: read) dotted).Apt := by
  cases dotted with
  | false =>
    change Whole (c :: read).reverse
    rw [List.reverse_cons]
    exact Whole.snoc h hc
  | true =>
    change Pointed (c :: read).reverse
    rw [List.reverse_cons]
    exact Pointed.snoc h hc

theorem Apt.step {s : Scan} (h : s.Apt) (c : Char) : Delivers (s.step c) := by
  cases s with
  | idle => exact delivers_start c
  | word read =>
    dsimp only [Scan.step]
    split
    · rename_i hc
      refine delivers_next ?_
      change Worded (c :: read).reverse
      rw [List.reverse_cons]
      exact Worded.snoc h hc
    · exact delivers_after (Worded.wellFormed_ofWord h) c
  | minus =>
    dsimp only [Scan.step]
    split
    · rename_i hd
      exact delivers_next ⟨[c], .single hd, Or.inr rfl⟩
    · exact delivers_error _
  | number read dotted =>
    dsimp only [Scan.step]
    split
    · rename_i hd
      exact delivers_next (h.digit hd)
    · split
      · cases dotted with
        | true => exact delivers_error _
        | false =>
          refine delivers_next ⟨read.reverse, [], h, fun _ hd => absurd hd List.not_mem_nil, ?_⟩
          rename_i hpoint
          rw [List.reverse_cons, hpoint]
      · split
        · exact delivers_error _
        · exact delivers_after h.numeral c
  | text read =>
    dsimp only [Scan.step]
    split <;> exact delivers_next trivial
  | closing read =>
    dsimp only [Scan.step]
    split
    · exact delivers_next trivial
    · exact delivers_after (show (Token.text _).WellFormed from trivial) c
  | bang =>
    dsimp only [Scan.step]
    split
    · exact delivers_symbol _
    · exact delivers_error _
  | greater =>
    dsimp only [Scan.step]
    split
    · exact delivers_symbol _
    · exact delivers_after (show (Token.symbol _).WellFormed from trivial) c
  | lower =>
    dsimp only [Scan.step]
    split
    · exact delivers_symbol _
    · exact delivers_after (show (Token.symbol _).WellFormed from trivial) c

theorem Apt.finish {s : Scan} (h : s.Apt) {tokens : List Token} (hf : s.finish = .ok tokens) :
    ∀ t ∈ tokens, t.WellFormed := by
  cases s <;> cases hf <;> try exact List.forall_mem_singleton.mpr trivial
  case idle => exact nofun
  case word => exact List.forall_mem_singleton.mpr (Worded.wellFormed_ofWord h)
  case number => exact List.forall_mem_singleton.mpr h.numeral

theorem Apt.run {s : Scan} (h : s.Apt) {cs : List Char} {tokens : List Token}
    (hr : s.run cs = .ok tokens) : ∀ t ∈ tokens, t.WellFormed := by
  induction cs generalizing s tokens with
  | nil => exact h.finish hr
  | cons c cs ih =>
    obtain ⟨⟨first, next⟩, hs, hr⟩ := bind_eq_ok.mp hr
    obtain ⟨rest, hn, heq⟩ := bind_eq_ok.mp hr
    obtain ⟨hfirst, hnext⟩ := h.step c first next hs
    cases heq
    exact List.forall_mem_append.mpr ⟨hfirst, ih hnext hn⟩

end Scan

theorem Token.wellFormed_of_scan {text : String} {tokens : List Token}
    (h : Token.scan text = .ok tokens) : ∀ t ∈ tokens, t.WellFormed :=
  Scan.Apt.run (s := .idle) trivial h

end Tabular
