import Tabular.Proofs.Number.Digits
import Tabular.Proofs.Token.Names

namespace Tabular
open Text Unicode

theorem isSpace_of_isDigit {c : Char} (h : c.isDigit = true) : isSpace c = false :=
  isSpace_of_isWordPart (by simp [isWordPart, isNumeric, h])

theorem isDigit_of_isSpace {c : Char} (h : isSpace c = true) : c.isDigit = false := by
  rw [Bool.eq_false_iff]
  intro hd
  rw [isSpace_of_isDigit hd] at h
  cases h

theorem Digits.word {ds : List Char} (h : Digits ds) : Word ds :=
  ⟨h.nonempty, fun c hc => isSpace_of_isDigit (h.digit c hc)⟩

namespace Scan

theorem run_cons (s : Scan) (c : Char) (rest : List Char) :
    s.run (c :: rest) = (s.step c).bind fun (tokens, next) =>
      (next.run rest).map (tokens ++ ·) := by
  rw [run]
  cases s.step c with
  | error fault => rfl
  | ok found =>
    obtain ⟨tokens, next⟩ := found
    change (next.run rest).bind _ = (next.run rest).map _
    cases next.run rest <;> rfl

/-- The characters take the scan from one state to the other, and no token ends on the way. -/
def Reaches (s : Scan) (cs : List Char) (s' : Scan) : Prop :=
  ∀ rest, s.run (cs ++ rest) = s'.run rest

theorem Reaches.refl (s : Scan) : s.Reaches [] s := fun _ => rfl

theorem Reaches.cons {s s' s'' : Scan} {c : Char} {cs : List Char}
    (hc : s.step c = .ok ([], s')) (h : s'.Reaches cs s'') : s.Reaches (c :: cs) s'' := by
  intro rest
  rw [List.cons_append, run_cons, hc, ← h rest]
  change (s'.run (cs ++ rest)).map (([] : List Token) ++ ·) = _
  cases s'.run (cs ++ rest) <;> rfl

theorem Reaches.trans {s s' s'' : Scan} {cs ds : List Char} (h : s.Reaches cs s')
    (h' : s'.Reaches ds s'') : s.Reaches (cs ++ ds) s'' := by
  intro rest
  rw [List.append_assoc, h, h']

theorem reaches_one {s s' : Scan} {c : Char} (hc : s.step c = .ok ([], s')) : s.Reaches [c] s' :=
  .cons hc (.refl s')

/-- Characters that each join what has been read so far are all read. -/
theorem reaches_all {s : List Char → Scan} {cs : List Char}
    (h : ∀ c ∈ cs, ∀ read, (s read).step c = .ok ([], s (c :: read))) (read : List Char) :
    (s read).Reaches cs (s (cs.reverse ++ read)) := by
  induction cs generalizing read with
  | nil => exact .refl _
  | cons c cs ih =>
    obtain ⟨hc, hcs⟩ := List.forall_mem_cons.mp h
    rw [List.reverse_cons, List.append_assoc]
    exact .cons (hc read) (ih hcs (c :: read))

theorem reaches_number {ds : List Char} (h : ∀ c ∈ ds, c.isDigit = true) (read : List Char)
    (dotted : Bool) : (number read dotted).Reaches ds (number (ds.reverse ++ read) dotted) :=
  reaches_all (s := (number · dotted)) (fun c hc read => by simp [step, h c hc]) read

theorem reaches_word {cs : List Char} (h : ∀ c ∈ cs, isWordPart c = true) (read : List Char) :
    (word read).Reaches cs (word (cs.reverse ++ read)) :=
  reaches_all (fun c hc read => by simp [step, h c hc]) read

/-- Within a text every character stands for itself, but for the quotes, of which two stand for
one. -/
theorem reaches_text (content read : List Char) :
    (text read).Reaches (content.flatMap fun c => if c = '\'' then ['\'', '\''] else [c])
      (text (content.reverse ++ read)) := by
  induction content generalizing read with
  | nil => exact .refl _
  | cons c content ih =>
    rw [List.flatMap_cons, List.reverse_cons, List.append_assoc]
    refine .trans ?_ (ih (c :: read))
    by_cases hc : c = '\''
    · subst hc
      exact .cons rfl (reaches_one rfl)
    · rw [if_neg hc]
      exact reaches_one (by simp [step, hc])

theorem step_digit {c : Char} (h : c.isDigit = true) :
    idle.step c = .ok ([], number [c] false) := by
  dsimp only [step]
  unfold start
  split
  case h_13 => rw [if_neg (by simp [isSpace_of_isDigit h]), if_pos h]
  all_goals exact absurd h (by decide)

/-- The state is one in which a digit begins a number, with a sign before it or without. -/
def Begins (s : Scan) (sign : List Char) : Prop :=
  ∀ c, c.isDigit = true → s.step c = .ok ([], number (c :: sign) false)

theorem begins_idle : idle.Begins [] := fun _ => step_digit

theorem begins_minus : minus.Begins ['-'] := fun _ h => if_pos h

theorem Begins.digits {s : Scan} {sign ds : List Char} (hs : s.Begins sign) (h : Digits ds) :
    s.Reaches ds (number (ds.reverse ++ sign) false) := by
  obtain ⟨c, tail, rfl⟩ := List.exists_cons_of_ne_nil h.nonempty
  rw [List.reverse_cons, List.append_assoc]
  exact .cons (hs c (h.digit c List.mem_cons_self))
    (reaches_number (fun d hd => h.digit d (List.mem_cons_of_mem c hd)) _ false)

theorem Begins.unsigned {s : Scan} {sign cs : List Char} (hs : s.Begins sign) (h : Unsigned cs) :
    ∃ dotted, s.Reaches cs (number (cs.reverse ++ sign) dotted) := by
  cases h with
  | whole hd => exact ⟨false, hs.digits hd⟩
  | @pointed ds part hd hp =>
    refine ⟨true, ?_⟩
    have hpoint : (number (ds.reverse ++ sign) false).Reaches ('.' :: part)
        (number (part.reverse ++ '.' :: (ds.reverse ++ sign)) true) :=
      .cons rfl (reaches_number hp.digit _ true)
    have heq : (ds ++ '.' :: part).reverse ++ sign =
        part.reverse ++ '.' :: (ds.reverse ++ sign) := by
      simp
    rw [heq]
    exact (hs.digits hd).trans hpoint

end Scan

/-- The characters end with one that is not white space, and give the token whether a space follows
or nothing. -/
structure Spells (cs : List Char) (token : Token) : Prop where
  ends : Ends cs
  scan : ∃ s, Scan.idle.Reaches cs s ∧ s.finish = .ok [token] ∧ s.step ' ' = .ok ([token], .idle)

theorem Spells.run {cs : List Char} {token : Token} (h : Spells cs token) :
    Scan.idle.run cs = .ok [token] := by
  obtain ⟨s, hr, hf, -⟩ := h.scan
  have hrun := hr []
  rw [List.append_nil] at hrun
  rw [hrun, Scan.run, hf]

theorem Spells.run_append {cs : List Char} {token : Token} (h : Spells cs token)
    (rest : List Char) :
    Scan.idle.run (cs ++ ' ' :: rest) = (Scan.idle.run rest).map (token :: ·) := by
  obtain ⟨s, hr, -, hs⟩ := h.scan
  rw [hr, Scan.run_cons, hs]
  rfl

/-- Spellings with one space between them are scanned one by one. -/
theorem run_intercalate {f : α → List Char} {g : α → Token} {as : List α}
    (h : ∀ a ∈ as, Spells (f a) (g a)) :
    Scan.idle.run ([' '].intercalate (as.map f)) = .ok (as.map g) := by
  induction as with
  | nil => rfl
  | cons a as ih =>
    obtain ⟨ha, has⟩ := List.forall_mem_cons.mp h
    cases as with
    | nil =>
      rw [List.map_singleton, List.map_singleton, List.intercalate_singleton]
      exact ha.run
    | cons b as =>
      rw [List.map_cons, List.map_cons, List.intercalate_cons_cons, List.append_assoc,
        List.singleton_append, ha.run_append, ← List.map_cons, ih has]
      rfl

theorem Unsigned.ends {cs : List Char} (h : Unsigned cs) : Ends cs := by
  cases h with
  | whole hd => exact hd.word.ends
  | @pointed ds part hd hp =>
    have hend : Ends ((ds ++ ['.']) ++ part) := hp.word.ends.append _
    rwa [List.append_assoc] at hend

theorem Signed.spells {cs : List Char} (h : Signed cs) :
    Spells cs (.number (String.ofList cs)) := by
  have hends : ∀ read dotted, (Scan.number read dotted).step ' ' =
      .ok ([.number (String.ofList read.reverse)], .idle) := fun _ _ => rfl
  obtain ⟨digits, hu, rfl | rfl⟩ := h
  · obtain ⟨dotted, hr⟩ := Scan.begins_idle.unsigned hu
    refine ⟨hu.ends, _, hr, ?_, ?_⟩
    · simp [Scan.finish]
    · rw [hends]
      simp
  · obtain ⟨dotted, hr⟩ := Scan.begins_minus.unsigned hu
    refine ⟨hu.ends.append ['-'], _, .cons rfl hr, ?_, ?_⟩
    · simp [Scan.finish]
    · rw [hends]
      simp

theorem spells_quote (content : String) :
    Spells (Token.quote content).toList (.text content) := by
  unfold Token.quote
  rw [String.toList_ofList]
  refine ⟨⟨'\'', List.getLast?_concat .., by decide⟩, .closing content.toList.reverse, ?_, ?_, ?_⟩
  · have hopen : Scan.idle.step '\'' = .ok ([], .text []) := rfl
    refine .cons hopen (.trans (Scan.reaches_text content.toList []) ?_)
    rw [List.append_nil]
    exact Scan.reaches_one rfl
  · simp [Scan.finish]
  · change Except.ok ([Token.text (String.ofList content.toList.reverse.reverse)], Scan.idle) = _
    rw [List.reverse_reverse, String.ofList_toList]

/-- A word is spelled by its characters, whether it is a keyword or an identifier. -/
theorem spells_word {c : Char} {cs : List Char} (hc : Scan.start c = .ok ([], .word [c]))
    (hall : (c :: cs).all isWordPart = true) : Spells (c :: cs) (.ofWord (c :: cs)) := by
  have h : ∀ d ∈ c :: cs, isWordPart d = true := List.all_eq_true.mp hall
  have hword : Word (c :: cs) := ⟨List.cons_ne_nil c cs, fun d hd => isSpace_of_isWordPart (h d hd)⟩
  have hread := Scan.reaches_word (fun d hd => h d (List.mem_cons_of_mem c hd)) [c]
  have hrev : (cs.reverse ++ [c]).reverse = c :: cs := by simp
  refine ⟨hword.ends, _, .cons hc hread, ?_, ?_⟩
  · rw [Scan.finish, hrev]
  · change Except.ok ([Token.ofWord (cs.reverse ++ [c]).reverse], Scan.idle) = _
    rw [hrev]

theorem spells_null : Spells "NULL".toList (.keyword .null) :=
  spells_word (by decide) (by decide)

theorem spells_true : Spells "true".toList (.keyword .true) :=
  spells_word (by decide) (by decide)

theorem spells_false : Spells "false".toList (.keyword .false) :=
  spells_word (by decide) (by decide)

end Tabular
