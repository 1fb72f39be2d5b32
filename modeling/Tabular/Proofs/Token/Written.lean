import Tabular.Proofs.Token.Spelling

namespace Tabular
open Text Unicode

def Symbol.spelling : Symbol → List Char
  | .leftParen => ['(']
  | .rightParen => [')']
  | .comma => [',']
  | .semicolon => [';']
  | .star => ['*']
  | .dot => ['.']
  | .equal => ['=']
  | .notEqual => ['!', '=']
  | .greater => ['>']
  | .greaterEqual => ['>', '=']
  | .lower => ['<']
  | .lowerEqual => ['<', '=']

/-- How a token may be written: a keyword in capitals, small letters or both, a text between quotes,
and every other token in one way only. -/
inductive Token.Spelling : Token → List Char → Prop where
  | keyword {k : Keyword} {cs : List Char} (h : cs.map Char.toUpper = k.spelling) :
    Spelling (.keyword k) cs
  | symbol (s : Symbol) : Spelling (.symbol s) s.spelling
  | ident (name : String) : Spelling (.ident name) name.toList
  | number (digits : String) : Spelling (.number digits) digits.toList
  | text (content : String) : Spelling (.text content) (Token.quote content).toList

/-- White space, if anything. -/
def Blank (cs : List Char) : Prop :=
  ∀ c ∈ cs, isSpace c = true

instance (cs : List Char) : Decidable (Blank cs) :=
  List.decidableBAll _ cs

/-- One token or more, and white space between each and the next. -/
inductive Spaced : List Token → List Char → Prop where
  | one {t : Token} {cs : List Char} (h : t.Spelling cs) : Spaced [t] cs
  | more {t : Token} {ts : List Token} {cs gap rest : List Char} (h : t.Spelling cs)
    (hgap : Blank gap) (hne : gap ≠ []) (hrest : Spaced ts rest) :
    Spaced (t :: ts) (cs ++ gap ++ rest)

/-- The tokens are spelled in their order, with white space between them and perhaps around. -/
inductive Written : List Token → List Char → Prop where
  | blank {gap : List Char} (h : Blank gap) : Written [] gap
  | spaced {ts : List Token} {lead body trail : List Char} (hlead : Blank lead)
    (h : Spaced ts body) (htrail : Blank trail) : Written ts (lead ++ body ++ trail)

namespace Scan

theorem start_space {c : Char} (h : isSpace c = true) : start c = .ok ([], .idle) := by
  unfold start
  split
  case h_13 => rw [if_pos h]
  all_goals exact absurd h (by decide)

/-- White space ends a token as the end of the text does, but for a text that is still open. -/
theorem step_space {s : Scan} {c : Char} {tokens : List Token} (hc : isSpace c = true)
    (h : s.finish = .ok tokens) : s.step c = .ok (tokens, .idle) := by
  have hafter : ∀ token, after token c = .ok ([token], .idle) := by
    intro token
    rw [after, start_space hc]
    rfl
  have hpart := isWordPart_of_isSpace hc
  have hstart : isWordStart c = false := by
    rw [Bool.eq_false_iff]
    intro hw
    rw [isWordPart_of_isWordStart hw] at hpart
    cases hpart
  have hdigit := isDigit_of_isSpace hc
  have hequal : c ≠ '=' := ne_of_isSpace hc (by decide)
  have hquote : c ≠ '\'' := ne_of_isSpace hc (by decide)
  have hpoint : c ≠ '.' := ne_of_isSpace hc (by decide)
  cases s with
  | idle =>
    cases h
    exact start_space hc
  | word read =>
    cases h
    simp [step, hpart, hafter]
  | minus => cases h
  | number read dotted =>
    cases h
    simp [step, hdigit, hpoint, hstart, hafter]
  | text read => cases h
  | closing read =>
    cases h
    simp [step, hquote, hafter]
  | bang => cases h
  | greater =>
    cases h
    simp [step, hequal, hafter]
  | lower =>
    cases h
    simp [step, hequal, hafter]

theorem run_blank {gap : List Char} (h : Blank gap) (rest : List Char) :
    idle.run (gap ++ rest) = idle.run rest := by
  induction gap with
  | nil => rfl
  | cons c gap ih =>
    obtain ⟨hc, hgap⟩ := List.forall_mem_cons.mp h
    have hone : idle.Reaches [c] idle := reaches_one (start_space hc)
    rw [List.cons_append, ← ih hgap]
    exact hone (gap ++ rest)

theorem run_of_blank {gap : List Char} (h : Blank gap) : idle.run gap = .ok [] := by
  have hrun := run_blank h []
  rw [List.append_nil] at hrun
  exact hrun

/-- What stands before white space is scanned as if it stood alone, and so is what follows. -/
theorem run_append_space {s : Scan} {cs : List Char} {tokens : List Token}
    (h : s.run cs = .ok tokens) {c : Char} (hc : isSpace c = true) (rest : List Char) :
    s.run (cs ++ c :: rest) = (idle.run rest).map (tokens ++ ·) := by
  induction cs generalizing s tokens with
  | nil =>
    rw [List.nil_append, run_cons, step_space hc h]
    rfl
  | cons d cs ih =>
    rw [run_cons] at h
    obtain ⟨⟨first, next⟩, hs, hrun⟩ := bind_eq_ok.mp h
    obtain ⟨more, hmore, rfl⟩ := map_eq_ok.mp hrun
    rw [List.cons_append, run_cons, hs]
    change (next.run (cs ++ c :: rest)).map (first ++ ·) = _
    rw [ih hmore]
    cases idle.run rest with
    | error fault => rfl
    | ok last => exact congrArg Except.ok (List.append_assoc first more last).symm

theorem start_word {c : Char} (h : isWordStart c = true) : start c = .ok ([], .word [c]) := by
  have hspace := isSpace_of_isWordPart (isWordPart_of_isWordStart h)
  unfold start
  split
  case h_13 => rw [if_neg (by simp [hspace]), if_neg (by simp [isDigit_of_isWordStart h]), if_pos h]
  all_goals exact absurd h (by decide)

theorem reaches_whole {cs : List Char} (h : Whole cs) :
    idle.Reaches cs (number cs.reverse false) := by
  obtain ⟨ds, hds, rfl | rfl⟩ := h
  · simpa using begins_idle.digits hds
  · have hr : idle.Reaches ('-' :: ds) (number (ds.reverse ++ ['-']) false) :=
      .cons rfl (begins_minus.digits hds)
    simpa using hr

theorem run_numeral {cs : List Char} (h : Numeral cs) :
    idle.run cs = .ok [.number (String.ofList cs)] := by
  have hstop : ∀ dotted, idle.Reaches cs (number cs.reverse dotted) →
      idle.run cs = .ok [.number (String.ofList cs)] := by
    intro dotted hr
    have hrun := hr []
    rw [List.append_nil] at hrun
    rw [hrun, run, finish, List.reverse_reverse]
  rcases h with hw | ⟨whole, part, hw, hp, rfl⟩
  · exact hstop false (reaches_whole hw)
  · have hpoint : (number whole.reverse false).Reaches ('.' :: part)
        (number (part.reverse ++ '.' :: whole.reverse) true) :=
      .cons rfl (reaches_number hp _ true)
    apply hstop true
    simpa using (reaches_whole hw).trans hpoint

end Scan

theorem Worded.run {cs : List Char} (h : Worded cs) : Scan.idle.run cs = .ok [.ofWord cs] := by
  obtain ⟨c, rest, rfl, hstart⟩ := h.exists_cons
  exact (spells_word (Scan.start_word hstart) (List.all_eq_true.mpr h.all)).run

theorem isUpper_spelling (k : Keyword) :
    k.spelling ≠ [] ∧ ∀ c ∈ k.spelling, c.isUpper = true := by
  rw [← List.all_eq_true]
  cases k <;> decide

theorem find?_spelling (k : Keyword) :
    Keyword.all.find? (·.spelling == k.spelling) = some k := by
  cases k <;> decide

theorem isAlpha_of_keyword {k : Keyword} {cs : List Char} (h : cs.map Char.toUpper = k.spelling) :
    ∀ c ∈ cs, c.isAlpha = true := by
  intro c hc
  have hm : c.toUpper ∈ k.spelling := by
    rw [← h]
    exact List.mem_map_of_mem hc
  exact isAlpha_of_isUpper_toUpper ((isUpper_spelling k).2 _ hm)

theorem worded_of_keyword {k : Keyword} {cs : List Char} (h : cs.map Char.toUpper = k.spelling) :
    Worded cs := by
  have hstart : ∀ c ∈ cs, isWordStart c = true :=
    fun c hc => isWordStart_of_isAlpha (isAlpha_of_keyword h c hc)
  cases cs with
  | nil => exact absurd h.symm (isUpper_spelling k).1
  | cons c rest =>
    exact ⟨⟨c, rfl, hstart c List.mem_cons_self⟩,
      fun d hd => isWordPart_of_isWordStart (hstart d (List.mem_cons_of_mem c hd))⟩

theorem ofWord_keyword {k : Keyword} {cs : List Char} (h : cs.map Char.toUpper = k.spelling) :
    Token.ofWord cs = .keyword k := by
  have hcapitals : cs.flatMap Keyword.capitals = k.spelling := by
    rw [← h, List.map_eq_flatMap]
    exact List.flatMap_congr fun c hc => capitals_of_isAlpha (isAlpha_of_keyword h c hc)
  unfold Token.ofWord Keyword.ofWord?
  rw [hcapitals, find?_spelling]

theorem Token.Spelling.run {t : Token} {cs : List Char} (h : t.Spelling cs) (ht : t.WellFormed) :
    Scan.idle.run cs = .ok [t] := by
  cases h with
  | keyword hk => rw [(worded_of_keyword hk).run, ofWord_keyword hk]
  | symbol s => cases s <;> rfl
  | ident name =>
    have hid : Identifier name.toList := ht
    have hof : Token.ofWord name.toList = .ident name := by
      unfold Token.ofWord
      rw [ofWord?_eq_none_iff.mpr hid.free, String.ofList_toList]
    rw [hid.worded.run, hof]
  | number digits =>
    have hn : Numeral digits.toList := ht
    rw [Scan.run_numeral hn, String.ofList_toList]
  | text content => exact (spells_quote content).run

theorem Spaced.run {ts : List Token} {body trail : List Char} (h : Spaced ts body)
    (ht : ∀ t ∈ ts, t.WellFormed) (htrail : Blank trail) :
    Scan.idle.run (body ++ trail) = .ok ts := by
  induction h with
  | @one t cs h =>
    have hone := h.run (ht t List.mem_cons_self)
    cases trail with
    | nil => rw [List.append_nil, hone]
    | cons c trail =>
      obtain ⟨hc, htrail⟩ := List.forall_mem_cons.mp htrail
      rw [Scan.run_append_space hone hc, Scan.run_of_blank htrail]
      rfl
  | @more t ts cs gap rest h hgap hne _ ih =>
    obtain ⟨hfirst, hothers⟩ := List.forall_mem_cons.mp ht
    obtain ⟨c, gap, rfl⟩ := List.exists_cons_of_ne_nil hne
    obtain ⟨hc, hgap⟩ := List.forall_mem_cons.mp hgap
    rw [List.append_assoc, List.append_assoc, List.cons_append,
      Scan.run_append_space (h.run hfirst) hc, Scan.run_blank hgap, ih hothers]
    rfl

theorem Written.run {ts : List Token} {cs : List Char} (h : Written ts cs)
    (ht : ∀ t ∈ ts, t.WellFormed) : Scan.idle.run cs = .ok ts := by
  cases h with
  | blank h => exact Scan.run_of_blank h
  | spaced hlead h htrail =>
    rw [List.append_assoc, Scan.run_blank hlead]
    exact h.run ht htrail

/-- Tokens that are written in any of their spellings are read back in full, and nothing is ever
read but well-formed tokens and one end mark behind them. -/
theorem Token.scanStatement_written :
    (∀ (tokens : List Token) (text : String), (∀ t ∈ tokens, t.WellFormed) →
      Written tokens text.toList → scanStatement text = .ok (tokens ++ [.stop])) ∧
    ∀ (text : String) (tokens : List Token), scanStatement text = .ok tokens →
      ∃ found, tokens = found ++ [.stop] ∧ ∀ t ∈ found, t.WellFormed := by
  constructor
  · intro tokens text ht hw
    have hscan : scan text = .ok tokens := hw.run ht
    exact bind_eq_ok.mpr ⟨tokens, hscan, rfl⟩
  · intro text tokens h
    obtain ⟨found, hscan, heq⟩ := bind_eq_ok.mp h
    cases heq
    exact ⟨found, rfl, wellFormed_of_scan hscan⟩

/-- A keyword in letters of both cases, a text with a quote in it, a number with nothing behind its
point, and an identifier that begins like a keyword. -/
def mixedTokens : List Token :=
  [.keyword .select, .text "it's", .number "-7.", .ident "Where1", .symbol .greaterEqual]

def mixedText : String := "\tseLEct  'it''s'\n-7. Where1 >="

theorem Token.scanStatement_written_mixed :
    Written mixedTokens mixedText.toList ∧
      scanStatement mixedText = .ok (mixedTokens ++ [.stop]) ∧
      ∃ found, mixedTokens ++ [.stop] = found ++ [.stop] ∧ ∀ t ∈ found, t.WellFormed := by
  have hnumber : Numeral "-7.".toList :=
    Or.inr ⟨['-', '7'], [], ⟨['7'], .single (by decide), Or.inr rfl⟩, nofun, by decide⟩
  have hname : Identifier "Where1".toList :=
    ⟨⟨⟨'W', by decide, by decide⟩, List.all_eq_true.mp (by decide)⟩,
      ofWord?_eq_none_iff.mp (by decide)⟩
  have ht : ∀ t ∈ mixedTokens, t.WellFormed := by
    simp only [mixedTokens, List.forall_mem_cons]
    exact ⟨trivial, trivial, hnumber, hname, trivial, nofun⟩
  have hspaced : Spaced mixedTokens ("seLEct".toList ++ [' ', ' '] ++
      ((quote "it's").toList ++ ['\n'] ++ ("-7.".toList ++ [' '] ++
        ("Where1".toList ++ [' '] ++ Symbol.spelling .greaterEqual)))) :=
    .more (.keyword (by decide)) (by decide) (by decide) <|
      .more (.text "it's") (by decide) (by decide) <|
        .more (.number "-7.") (by decide) (by decide) <|
          .more (.ident "Where1") (by decide) (by decide) <| .one (.symbol .greaterEqual)
  have htext : mixedText.toList = ['\t'] ++ ("seLEct".toList ++ [' ', ' '] ++
      ((quote "it's").toList ++ ['\n'] ++ ("-7.".toList ++ [' '] ++
        ("Where1".toList ++ [' '] ++ Symbol.spelling .greaterEqual)))) ++ [] := by
    decide
  have hw : Written mixedTokens mixedText.toList := by
    rw [htext]
    exact .spaced (by decide) hspaced nofun
  have hscan := scanStatement_written.1 mixedTokens mixedText ht hw
  exact ⟨hw, hscan, scanStatement_written.2 mixedText _ hscan⟩

end Tabular
