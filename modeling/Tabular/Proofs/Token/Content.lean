import Tabular.Literal
import Tabular.Proofs.Result
import Tabular.Token.Scan

namespace Tabular

/-- What a token keeps of the text that it was read from. -/
def Token.content : Token → List Char
  | .ident name => name.toList
  | .number digits => digits.toList
  | .text content => content.toList
  | _ => []

namespace Scan

/-- What has been read of the token that is begun. -/
def held : Scan → List Char
  | .word read | .number read _ | .text read | .closing read => read
  | .minus => ['-']
  | _ => []

/-- The tokens of a result and the one begun are made of these characters. -/
def Drawn (cs : List Char) (result : Except SyntaxFault (List Token × Scan)) : Prop :=
  ∀ tokens scan, result = .ok (tokens, scan) → (∀ t ∈ tokens, t.content ⊆ cs) ∧ scan.held ⊆ cs

theorem drawn_error (cs : List Char) (fault : SyntaxFault) : Drawn cs (.error fault) := nofun

theorem drawn_next {cs : List Char} {scan : Scan} (h : scan.held ⊆ cs) :
    Drawn cs (.ok ([], scan)) := by
  intro _ _ heq
  cases heq
  exact ⟨fun _ ht => absurd ht List.not_mem_nil, h⟩

theorem drawn_symbol (cs : List Char) (symbol : Symbol) :
    Drawn cs (.ok ([.symbol symbol], .idle)) := by
  intro _ _ heq
  cases heq
  exact ⟨List.forall_mem_singleton.mpr (List.nil_subset cs), List.nil_subset cs⟩

theorem drawn_start (c : Char) : Drawn [c] (start c) := by
  unfold start
  split
  case h_13 =>
    split
    · exact drawn_next (List.nil_subset _)
    · split
      · exact drawn_next (List.Subset.refl _)
      · split
        · exact drawn_next (List.Subset.refl _)
        · exact drawn_error _ _
  case h_12 => exact drawn_next (List.Subset.refl _)
  all_goals first | exact drawn_symbol _ _ | exact drawn_next (List.nil_subset _)

theorem drawn_after {token : Token} {cs : List Char} (ht : token.content ⊆ cs) (c : Char) :
    Drawn (c :: cs) (after token c) := by
  intro tokens scan h
  obtain ⟨⟨more, next⟩, hs, heq⟩ := map_eq_ok.mp h
  obtain ⟨hmore, hnext⟩ := drawn_start c more next hs
  cases heq
  have hlast : [c] ⊆ c :: cs := List.cons_subset_cons c (List.nil_subset cs)
  refine ⟨List.forall_mem_cons.mpr ⟨List.subset_cons_of_subset c ht, ?_⟩,
    List.Subset.trans hnext hlast⟩
  exact fun t hm => List.Subset.trans (hmore t hm) hlast

theorem content_ofWord_reverse (read : List Char) :
    (Token.ofWord read.reverse).content ⊆ read := by
  unfold Token.ofWord
  split
  · exact List.nil_subset read
  · rw [Token.content, String.toList_ofList]
    exact List.reverse_subset.mpr (List.Subset.refl read)

theorem ofList_reverse_subset (read : List Char) : (String.ofList read.reverse).toList ⊆ read := by
  rw [String.toList_ofList]
  exact List.reverse_subset.mpr (List.Subset.refl read)

theorem drawn_step (s : Scan) (c : Char) : Drawn (c :: s.held) (s.step c) := by
  have hgone : ∀ cs : List Char, cs ⊆ c :: cs := List.subset_cons_self c
  cases s with
  | idle => exact drawn_start c
  | word read =>
    dsimp only [step]
    split
    · exact drawn_next (List.Subset.refl _)
    · exact drawn_after (content_ofWord_reverse read) c
  | minus =>
    dsimp only [step]
    split
    · exact drawn_next (List.Subset.refl _)
    · exact drawn_error _ _
  | number read dotted =>
    dsimp only [step]
    split
    · exact drawn_next (List.Subset.refl _)
    · split
      · split
        · exact drawn_error _ _
        · exact drawn_next (List.Subset.refl _)
      · split
        · exact drawn_error _ _
        · exact drawn_after (ofList_reverse_subset read) c
  | text read =>
    dsimp only [step]
    split
    · exact drawn_next (hgone _)
    · exact drawn_next (List.Subset.refl _)
  | closing read =>
    dsimp only [step]
    split
    · exact drawn_next (List.Subset.refl _)
    · exact drawn_after (ofList_reverse_subset read) c
  | bang =>
    dsimp only [step]
    split
    · exact drawn_symbol _ _
    · exact drawn_error _ _
  | greater =>
    dsimp only [step]
    split
    · exact drawn_symbol _ _
    · exact drawn_after (List.nil_subset _) c
  | lower =>
    dsimp only [step]
    split
    · exact drawn_symbol _ _
    · exact drawn_after (List.nil_subset _) c

theorem content_of_finish {s : Scan} {tokens : List Token} (h : s.finish = .ok tokens) :
    ∀ t ∈ tokens, t.content ⊆ s.held := by
  cases s <;> cases h
  case idle => exact nofun
  case word read => exact List.forall_mem_singleton.mpr (content_ofWord_reverse read)
  case number read dotted => exact List.forall_mem_singleton.mpr (ofList_reverse_subset read)
  case closing read => exact List.forall_mem_singleton.mpr (ofList_reverse_subset read)
  all_goals exact List.forall_mem_singleton.mpr (List.nil_subset _)

theorem content_of_run {s : Scan} {cs : List Char} {tokens : List Token}
    (h : s.run cs = .ok tokens) : ∀ t ∈ tokens, t.content ⊆ s.held ++ cs := by
  induction cs generalizing s tokens with
  | nil =>
    rw [List.append_nil]
    exact content_of_finish h
  | cons c cs ih =>
    obtain ⟨⟨first, next⟩, hstep, h⟩ := bind_eq_ok.mp h
    obtain ⟨rest, hrest, heq⟩ := bind_eq_ok.mp h
    cases heq
    obtain ⟨hfirst, hheld⟩ := drawn_step s c first next hstep
    have hread : c :: s.held ⊆ s.held ++ c :: cs := by
      intro d hd
      simp only [List.mem_cons, List.mem_append] at hd ⊢
      tauto
    have hbehind : next.held ++ cs ⊆ s.held ++ c :: cs :=
      List.append_subset.mpr ⟨List.Subset.trans hheld hread,
        List.subset_append_of_subset_right _ (List.subset_cons_self c cs)⟩
    exact List.forall_mem_append.mpr ⟨fun t ht => List.Subset.trans (hfirst t ht) hread,
      fun t ht => List.Subset.trans (ih hrest t ht) hbehind⟩

end Scan

theorem Token.content_of_scan {text : String} {tokens : List Token}
    (h : Token.scan text = .ok tokens) : ∀ t ∈ tokens, t.content ⊆ text.toList :=
  Scan.content_of_run (s := .idle) h

/-- A literal holds what its token does, unless it is the word for a truth value. -/
theorem Token.content_of_ofToken? {token : Token} {word : String}
    (h : Literal.ofToken? token = some (.bare word) ∨ Literal.ofToken? token = some (.quoted word)) :
    word.toList = token.content ∨ word = "true" ∨ word = "false" := by
  cases token with
  | keyword k => cases k <;> simp_all [Literal.ofToken?]
  | _ => simp_all [Literal.ofToken?, content]

end Tabular
