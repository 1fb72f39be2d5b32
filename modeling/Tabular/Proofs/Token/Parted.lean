import Tabular.Proofs.Token.Written

namespace Tabular
open Unicode

namespace Scan

/-- What may not end with the text may not end before white space, but for a text that is still
open and takes the white space in. -/
theorem step_space_of_error {s : Scan} {c : Char} {fault : SyntaxFault} (hc : isSpace c = true)
    (h : s.finish = .error fault) (hclosed : fault ≠ .openText) : s.step c = .error fault := by
  cases s with
  | minus =>
    cases h
    simp [step, isDigit_of_isSpace hc]
  | text read =>
    cases h
    exact absurd rfl hclosed
  | bang =>
    cases h
    exact if_neg (ne_of_isSpace hc (by decide))
  | idle => cases h
  | word read => cases h
  | number read dotted => cases h
  | closing read => cases h
  | greater => cases h
  | lower => cases h

/-- A fault in front of white space is found before anything that follows it is looked at. -/
theorem run_append_space_of_error {s : Scan} {cs : List Char} {fault : SyntaxFault}
    (h : s.run cs = .error fault) (hclosed : fault ≠ .openText) {c : Char}
    (hc : isSpace c = true) (rest : List Char) : s.run (cs ++ c :: rest) = .error fault := by
  induction cs generalizing s with
  | nil =>
    rw [List.nil_append, run_cons, step_space_of_error hc h hclosed]
    rfl
  | cons d cs ih =>
    rw [run_cons] at h
    rw [List.cons_append, run_cons]
    rcases bind_eq_error.mp h with hstep | ⟨⟨first, next⟩, hstep, hnext⟩
    · rw [hstep]
      rfl
    · have hrest : next.run (cs ++ c :: rest) = .error fault := ih (map_eq_error.mp hnext)
      rw [hstep]
      change (next.run (cs ++ c :: rest)).map (first ++ ·) = _
      rw [hrest]
      rfl

/-- How many tokens are still to come of what has been read. -/
def due : Scan → Nat
  | .idle => 0
  | _ => 1

theorem due_le (s : Scan) : s.due ≤ 1 := by
  cases s <;> simp [due]

/-- The tokens of a result, with the one that is begun, are no more than so many. -/
def AtMost (n : Nat) (result : Except SyntaxFault (List Token × Scan)) : Prop :=
  ∀ tokens next, result = .ok (tokens, next) → tokens.length + next.due ≤ n

theorem atMost_error (n : Nat) (fault : SyntaxFault) : AtMost n (.error fault) := nofun

theorem atMost_next (n : Nat) (next : Scan) : AtMost (n + 1) (.ok ([], next)) := by
  intro tokens next' h
  cases h
  have := next.due_le
  rw [List.length_nil]
  omega

theorem atMost_symbol (n : Nat) (symbol : Symbol) :
    AtMost (n + 1) (.ok ([.symbol symbol], idle)) := by
  intro tokens next h
  cases h
  simp [due]

theorem atMost_start (c : Char) : AtMost 1 (start c) := by
  unfold start
  split
  case h_13 =>
    split
    · exact atMost_next 0 _
    · split
      · exact atMost_next 0 _
      · split
        · exact atMost_next 0 _
        · exact atMost_error 1 _
  all_goals first | exact atMost_symbol 0 _ | exact atMost_next 0 _

theorem atMost_after (token : Token) (c : Char) : AtMost 2 (after token c) := by
  intro tokens next h
  obtain ⟨⟨more, scan⟩, hstart, heq⟩ := map_eq_ok.mp h
  have hmore := atMost_start c more scan hstart
  cases heq
  rw [List.length_cons]
  omega

theorem atMost_step (s : Scan) (c : Char) : AtMost (s.due + 1) (s.step c) := by
  cases s with
  | idle => exact atMost_start c
  | word read =>
    dsimp only [step]
    split
    · exact atMost_next 1 _
    · exact atMost_after _ c
  | minus =>
    dsimp only [step]
    split
    · exact atMost_next 1 _
    · exact atMost_error 2 _
  | number read dotted =>
    dsimp only [step]
    split
    · exact atMost_next 1 _
    · split
      · split
        · exact atMost_error 2 _
        · exact atMost_next 1 _
      · split
        · exact atMost_error 2 _
        · exact atMost_after _ c
  | text read =>
    dsimp only [step]
    split <;> exact atMost_next 1 _
  | closing read =>
    dsimp only [step]
    split
    · exact atMost_next 1 _
    · exact atMost_after _ c
  | bang =>
    dsimp only [step]
    split
    · exact atMost_symbol 1 _
    · exact atMost_error 2 _
  | greater =>
    dsimp only [step]
    split
    · exact atMost_symbol 1 _
    · exact atMost_after _ c
  | lower =>
    dsimp only [step]
    split
    · exact atMost_symbol 1 _
    · exact atMost_after _ c

theorem length_finish {s : Scan} {tokens : List Token} (h : s.finish = .ok tokens) :
    tokens.length ≤ s.due := by
  cases s <;> cases h <;> simp [due]

theorem length_run {s : Scan} {cs : List Char} {tokens : List Token} (h : s.run cs = .ok tokens) :
    tokens.length ≤ s.due + cs.length := by
  induction cs generalizing s tokens with
  | nil => exact length_finish h
  | cons c cs ih =>
    rw [run_cons] at h
    obtain ⟨⟨first, next⟩, hstep, hrun⟩ := bind_eq_ok.mp h
    obtain ⟨others, hothers, rfl⟩ := map_eq_ok.mp hrun
    have hfirst := atMost_step s c first next hstep
    have hrest := ih hothers
    rw [List.length_append, List.length_cons]
    omega

end Scan

namespace Token

theorem scanStatement_eq_ok {text : String} {tokens : List Token} :
    scanStatement text = .ok (tokens ++ [.stop]) ↔ scan text = .ok tokens := by
  constructor
  · intro h
    obtain ⟨found, hscan, heq⟩ := bind_eq_ok.mp h
    rw [hscan, List.append_cancel_right (Except.ok.inj heq)]
  · exact fun h => bind_eq_ok.mpr ⟨tokens, h, rfl⟩

theorem scanStatement_eq_error {text : String} {fault : SyntaxFault} :
    scanStatement text = .error fault ↔ scan text = .error fault := by
  constructor
  · intro h
    rcases bind_eq_error.mp h with hscan | ⟨_, -, hend⟩
    · exact hscan
    · cases hend
  · exact fun h => bind_eq_error.mpr (Or.inl h)

/-- The first text is scanned to its end before the white space, and the second one afresh. -/
theorem scan_append {front gap : String} {tokens : List Token} (h : scan front = .ok tokens)
    (hgap : Blank gap.toList) (hne : gap ≠ "") (rear : String) :
    scan (front ++ gap ++ rear) = (scan rear).map (tokens ++ ·) := by
  obtain ⟨c, blank, heq⟩ := List.exists_cons_of_ne_nil (mt String.toList_eq_nil_iff.mp hne)
  rw [heq] at hgap
  obtain ⟨hc, hblank⟩ := List.forall_mem_cons.mp hgap
  unfold scan at h ⊢
  rw [String.toList_append, String.toList_append, heq, List.append_assoc, List.cons_append,
    Scan.run_append_space h hc, Scan.run_blank hblank]

theorem scan_append_of_error {front gap : String} {fault : SyntaxFault}
    (h : scan front = .error fault) (hclosed : fault ≠ .openText) (hgap : Blank gap.toList)
    (hne : gap ≠ "") (rear : String) : scan (front ++ gap ++ rear) = .error fault := by
  obtain ⟨c, blank, heq⟩ := List.exists_cons_of_ne_nil (mt String.toList_eq_nil_iff.mp hne)
  rw [heq] at hgap
  obtain ⟨hc, -⟩ := List.forall_mem_cons.mp hgap
  unfold scan at h ⊢
  rw [String.toList_append, String.toList_append, heq, List.append_assoc, List.cons_append]
  exact Scan.run_append_space_of_error h hclosed hc _

/-- What comes of a text with white space in it is made up of what comes of the texts on either
side of it, whichever white space it is: all tokens of the first and then what comes of the second,
or the fault of the first, but for a text that is open there. Every text comes to a fault or to
tokens, of which it has no more than characters. -/
theorem scanStatement_append :
    (∀ front gap rear : String, Blank gap.toList → gap ≠ "" →
      (∀ tokens, scanStatement front = .ok (tokens ++ [.stop]) →
        (∀ others, scanStatement rear = .ok others →
          scanStatement (front ++ gap ++ rear) = .ok (tokens ++ others)) ∧
        ∀ fault, scanStatement rear = .error fault →
          scanStatement (front ++ gap ++ rear) = .error fault) ∧
      (∀ fault, scanStatement front = .error fault → fault ≠ .openText →
        scanStatement (front ++ gap ++ rear) = .error fault) ∧
      (scanStatement front ≠ .error .openText →
        ∀ other : String, Blank other.toList → other ≠ "" →
          scanStatement (front ++ other ++ rear) = scanStatement (front ++ gap ++ rear))) ∧
    ∀ text : String, (∃ fault, scanStatement text = .error fault) ∨
      ∃ tokens, scanStatement text = .ok (tokens ++ [.stop]) ∧ .stop ∉ tokens ∧
        tokens.length ≤ text.length := by
  constructor
  · intro front gap rear hgap hne
    refine ⟨fun tokens hfront => ⟨fun others hrear => ?_, fun fault hrear => ?_⟩,
      fun fault hfront hclosed => ?_, fun hclosed other hother hne' => ?_⟩
    · obtain ⟨found, hscan, heq⟩ := bind_eq_ok.mp hrear
      cases heq
      rw [← List.append_assoc, scanStatement_eq_ok,
        scan_append (scanStatement_eq_ok.mp hfront) hgap hne, hscan]
      rfl
    · rw [scanStatement_eq_error, scan_append (scanStatement_eq_ok.mp hfront) hgap hne,
        scanStatement_eq_error.mp hrear]
      rfl
    · rw [scanStatement_eq_error] at hfront ⊢
      exact scan_append_of_error hfront hclosed hgap hne rear
    · unfold scanStatement
      cases hfront : scan front with
      | ok tokens => rw [scan_append hfront hother hne', scan_append hfront hgap hne]
      | error fault =>
        have hfault : fault ≠ .openText := by
          rintro rfl
          exact hclosed (scanStatement_eq_error.mpr hfront)
        rw [scan_append_of_error hfront hfault hother hne',
          scan_append_of_error hfront hfault hgap hne]
  · intro text
    cases hscan : scan text with
    | error fault => exact Or.inl ⟨fault, scanStatement_eq_error.mpr hscan⟩
    | ok tokens =>
      refine Or.inr ⟨tokens, scanStatement_eq_ok.mpr hscan, ?_, ?_⟩
      · exact fun hm => wellFormed_of_scan hscan _ hm
      · have hlength := Scan.length_run hscan
        rwa [Scan.due, Nat.zero_add, String.length_toList] at hlength

/-- A quote in front of the white space and one behind it do not make one text, nor a point in a
number, and an exclamation mark finds no equals sign past the gap. -/
theorem scanStatement_append_quotes :
    scanStatement ("x >'a'" ++ "\n " ++ "'b' 7.") =
        .ok [.ident "x", .symbol .greater, .text "a", .text "b", .number "7.", .stop] ∧
      scanStatement ("x >'a'" ++ "\n " ++ "7.1.") = .error .secondDot ∧
      scanStatement ("x !" ++ "\n " ++ "= 7") = .error .loneBang ∧
      scanStatement ("x !" ++ "\t" ++ "= 7") = scanStatement ("x !" ++ "\n " ++ "= 7") := by
  have hgap : Blank "\n ".toList := by decide
  have hfront : scanStatement "x >'a'" =
      .ok ([.ident "x", .symbol .greater, .text "a"] ++ [.stop]) := by decide +kernel
  have hbang : scanStatement "x !" = .error .loneBang := by decide +kernel
  have hparts := fun front rear => scanStatement_append.1 front "\n " rear hgap (by decide)
  refine ⟨((hparts _ _).1 _ hfront).1 _ (by decide +kernel),
    ((hparts _ _).1 _ hfront).2 _ (by decide +kernel), (hparts _ _).2.1 _ hbang nofun, ?_⟩
  exact (hparts _ _).2.2 (by rw [hbang]; nofun) "\t" (by decide) (by decide)

end Token

end Tabular
