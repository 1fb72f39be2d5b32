import Mathlib.Data.List.Induction
import Mathlib.Data.List.TakeWhile
import Tabular.Text.Words

namespace Tabular.Text
open Unicode

/-- Something to read, and no white space in it. -/
structure Word (cs : List Char) : Prop where
  nonempty : cs ≠ []
  solid : ∀ c ∈ cs, isSpace c = false

instance (cs : List Char) : Decidable (Word cs) :=
  decidable_of_iff (cs ≠ [] ∧ cs.all (!isSpace ·) = true)
    ⟨fun h => ⟨h.1, by simpa using h.2⟩, fun h => ⟨h.nonempty, by simpa using h.solid⟩⟩

/-- What can stand on a line of its own, where the white space around it does not count. -/
structure Title (cs : List Char) : Prop where
  nonempty : cs ≠ []
  unbroken : '\n' ∉ cs
  first : ∀ c ∈ cs.head?, isSpace c = false
  last : ∀ c ∈ cs.getLast?, isSpace c = false

theorem Word.not_feed {cs : List Char} (h : Word cs) : '\n' ∉ cs := by
  intro hm
  exact absurd (h.solid _ hm) (by decide)

theorem Word.title {cs : List Char} (h : Word cs) : Title cs :=
  ⟨h.nonempty, h.not_feed, fun _ hc => h.solid _ (List.mem_of_mem_head? hc),
    fun _ hc => h.solid _ (List.mem_of_getLast? hc)⟩

theorem Word.append {cs ds : List Char} (h : Word cs) (hd : Word ds) : Word (cs ++ ds) :=
  ⟨List.append_ne_nil_of_left_ne_nil h.nonempty ds,
    List.forall_mem_append.mpr ⟨h.solid, hd.solid⟩⟩

/-- There is a last character, and it is not white space. -/
def Ends (cs : List Char) : Prop :=
  ∃ c, cs.getLast? = some c ∧ isSpace c = false

theorem not_mem_of_mem_lines [BEq α] [LawfulBEq α] {feed : α} {as line : List α}
    (h : line ∈ lines feed as) : feed ∉ line := by
  induction as generalizing line with
  | nil => cases h
  | cons a rest ih =>
    unfold lines at h
    split at h
    · rcases List.mem_cons.mp h with rfl | h
      · exact List.not_mem_nil
      · exact ih h
    · rename_i ha
      have hne : feed ≠ a := fun he => ha (by rw [he]; exact beq_self_eq_true a)
      split at h
      · rw [List.mem_singleton.mp h]
        simpa using hne
      · rename_i head others heq
        rcases List.mem_cons.mp h with rfl | h
        · have hhead : feed ∉ head := ih (by rw [heq]; exact List.mem_cons_self)
          simp [hne, hhead]
        · exact ih (by rw [heq]; exact List.mem_cons_of_mem _ h)

theorem lines_append [BEq α] [LawfulBEq α] {feed : α} {line : List α} (h : feed ∉ line)
    (rest : List α) : lines feed (line ++ feed :: rest) = line :: lines feed rest := by
  induction line with
  | nil => simp [lines]
  | cons a line ih =>
    rw [List.mem_cons, not_or] at h
    have ha : (a == feed) = false := beq_eq_false_iff_ne.mpr (Ne.symm h.1)
    rw [List.cons_append, lines, ha, ih h.2]
    rfl

/-- Lines that are each ended by a feed and hold no other come back. -/
theorem lines_flatMap [BEq α] [LawfulBEq α] {feed : α} {ls : List (List α)}
    (h : ∀ line ∈ ls, feed ∉ line) : lines feed (ls.flatMap (· ++ [feed])) = ls := by
  induction ls with
  | nil => rfl
  | cons line ls ih =>
    rw [List.flatMap_cons, List.append_assoc, List.singleton_append,
      lines_append (h line List.mem_cons_self), ih fun l hl => h l (List.mem_cons_of_mem line hl)]

theorem trimStart_eq {cs : List Char} (h : ∀ c ∈ cs.head?, isSpace c = false) :
    trimStart cs = cs := by
  cases cs with
  | nil => rfl
  | cons c cs => exact List.dropWhile_cons_of_neg (by simp [h c rfl])

theorem trimEnd_eq {cs : List Char} (h : ∀ c ∈ cs.getLast?, isSpace c = false) :
    trimEnd cs = cs := by
  unfold trimEnd
  rw [trimStart_eq (by rwa [List.head?_reverse]), List.reverse_reverse]

theorem Title.trim {cs : List Char} (h : Title cs) : trim cs = cs := by
  unfold Text.trim
  rw [trimStart_eq h.first, trimEnd_eq h.last]

theorem mem_of_mem_trimStart {c : Char} {cs : List Char} (h : c ∈ trimStart cs) : c ∈ cs :=
  (List.dropWhile_suffix isSpace).subset h

theorem prefix_trimEnd (cs : List Char) : trimEnd cs <+: cs := by
  rw [← List.reverse_suffix, trimEnd, List.reverse_reverse]
  exact List.dropWhile_suffix isSpace

theorem mem_of_mem_trim {c : Char} {cs : List Char} (h : c ∈ trim cs) : c ∈ cs :=
  mem_of_mem_trimStart ((prefix_trimEnd _).subset h)

theorem first_trimStart (cs : List Char) : ∀ c ∈ (trimStart cs).head?, isSpace c = false := by
  intro c hc
  have hnot := List.head?_dropWhile_not isSpace cs
  rw [show (cs.dropWhile isSpace).head? = some c from hc] at hnot
  simpa using hnot

theorem last_trimEnd (cs : List Char) : ∀ c ∈ (trimEnd cs).getLast?, isSpace c = false := by
  unfold trimEnd
  rw [List.getLast?_reverse]
  exact first_trimStart cs.reverse

/-- What is left of a text without a feed, when the white space around it is gone, is a title. -/
theorem title_trim {cs : List Char} (hfeed : '\n' ∉ cs) (hne : trim cs ≠ []) :
    Title (trim cs) := by
  refine ⟨hne, ?_, ?_, last_trimEnd _⟩
  · exact fun hm => hfeed (mem_of_mem_trim hm)
  · -- What is cut at the end leaves the first character in its place.
    intro c hc
    apply first_trimStart cs c
    obtain ⟨rest, hrest⟩ := prefix_trimEnd (trimStart cs)
    rw [← hrest, List.head?_append, show (trimEnd (trimStart cs)).head? = some c from hc]
    rfl

theorem trimEnd_append_space (cs : List Char) {c : Char} (h : isSpace c = true) :
    trimEnd (cs ++ [c]) = trimEnd cs := by
  unfold trimEnd trimStart
  rw [List.reverse_append, List.reverse_singleton, List.singleton_append,
    List.dropWhile_cons_of_pos h]

/-- A text is cut at the first white space in it. -/
theorem cut_eq_some {cs head rest : List Char} : cut cs = some (head, rest) ↔
    (∀ c ∈ head, isSpace c = false) ∧ ∃ gap, isSpace gap = true ∧ cs = head ++ gap :: rest := by
  constructor
  · intro h
    unfold cut at h
    split at h
    · cases h
    · rename_i gap behind hd
      cases h
      refine ⟨?_, gap, ?_, ?_⟩
      · intro c hc
        simpa using List.mem_takeWhile_imp hc
      · have hnot := List.head?_dropWhile_not (!isSpace ·) cs
        rw [hd] at hnot
        simpa using hnot
      · rw [← hd, List.takeWhile_append_dropWhile]
  · rintro ⟨hhead, gap, hgap, rfl⟩
    have hall : ∀ c ∈ head, (!isSpace c) = true := by simpa using hhead
    unfold cut
    rw [List.dropWhile_append_of_pos hall, List.takeWhile_append_of_pos hall]
    simp [hgap]

theorem words_append_space (cs rest : List Char) {c : Char} (h : isSpace c = true) :
    words (cs ++ c :: rest) = words cs ++ words rest := by
  unfold words
  rw [List.splitOnP_append_cons cs rest h, List.filter_append]

theorem words_single {w : List Char} (h : Word w) : words w = [w] := by
  unfold words
  rw [List.splitOnP_eq_singleton h.solid, List.filter_cons_of_pos]
  · rfl
  · simpa using h.nonempty

theorem words_append {w : List Char} (h : Word w) (rest : List Char) :
    words (w ++ ' ' :: rest) = w :: words rest := by
  rw [words_append_space w rest (by decide), words_single h]
  rfl

/-- White space at the end belongs to no word. -/
theorem words_trimEnd (cs : List Char) : words (trimEnd cs) = words cs := by
  induction cs using List.reverseRecOn with
  | nil => rfl
  | append_singleton cs c ih =>
    cases hc : isSpace c with
    | true =>
      rw [trimEnd_append_space cs hc, ih, words_append_space cs [] hc]
      exact (List.append_nil _).symm
    | false =>
      rw [trimEnd_eq]
      intro d hd
      rw [List.getLast?_concat] at hd
      cases hd
      exact hc

/-- Words with one space between them come back. -/
theorem words_intercalate {ws : List (List Char)} (h : ∀ w ∈ ws, Word w) :
    words ([' '].intercalate ws) = ws := by
  induction ws with
  | nil => rfl
  | cons w ws ih =>
    have hw := h w List.mem_cons_self
    have hws := ih fun v hv => h v (List.mem_cons_of_mem w hv)
    cases ws with
    | nil => rw [List.intercalate_singleton, words_single hw]
    | cons v ws =>
      rw [List.intercalate_cons_cons, List.append_assoc, List.singleton_append, words_append hw,
        hws]

theorem Ends.append {ds : List Char} (h : Ends ds) (cs : List Char) : Ends (cs ++ ds) := by
  obtain ⟨c, hc, hs⟩ := h
  refine ⟨c, ?_, hs⟩
  rw [List.getLast?_append, hc]
  rfl

theorem Ends.trimEnd {cs : List Char} (h : Ends cs) : trimEnd cs = cs := by
  obtain ⟨c, hc, hs⟩ := h
  apply trimEnd_eq
  intro d hd
  rw [hc] at hd
  cases hd
  exact hs

theorem Word.ends {cs : List Char} (h : Word cs) : Ends cs := by
  obtain ⟨c, hc⟩ := Option.isSome_iff_exists.mp (List.getLast?_isSome.mpr h.nonempty)
  exact ⟨c, hc, h.solid c (List.mem_of_getLast? hc)⟩

/-- Of texts with spaces between them the last one's end counts. -/
theorem trimEnd_intercalate {ws : List (List Char)} (h : ∀ w ∈ ws, Ends w) :
    trimEnd ([' '].intercalate ws) = [' '].intercalate ws := by
  cases ws with
  | nil => rfl
  | cons w ws =>
    refine Ends.trimEnd ?_
    induction ws generalizing w with
    | nil =>
      rw [List.intercalate_singleton]
      exact h w List.mem_cons_self
    | cons v ws ih =>
      rw [List.intercalate_cons_cons]
      exact (ih v (List.forall_mem_cons.mp h).2).append _

theorem solid_of_mem_splitOnP {w cs : List Char} (h : w ∈ cs.splitOnP isSpace) :
    ∀ c ∈ w, isSpace c = false := by
  induction cs generalizing w with
  | nil =>
    rw [List.splitOnP_nil, List.mem_singleton] at h
    rw [h]
    exact fun c hc => absurd hc List.not_mem_nil
  | cons c cs ih =>
    rw [List.splitOnP_cons_eq_if_modifyHead] at h
    split at h
    · rcases List.mem_cons.mp h with rfl | h
      · exact fun c hc => absurd hc List.not_mem_nil
      · exact ih h
    · rename_i hc
      obtain ⟨head, others, heq⟩ := List.exists_cons_of_ne_nil (List.splitOnP_ne_nil isSpace cs)
      rw [heq, List.modifyHead_cons] at h
      rcases List.mem_cons.mp h with rfl | h
      · intro d hd
        rcases List.mem_cons.mp hd with rfl | hd
        · exact Bool.eq_false_iff.mpr hc
        · exact ih (by rw [heq]; exact List.mem_cons_self) d hd
      · exact ih (by rw [heq]; exact List.mem_cons_of_mem _ h)

theorem word_of_mem_words {w cs : List Char} (h : w ∈ words cs) : Word w := by
  obtain ⟨hm, hne⟩ := List.mem_filter.mp h
  exact ⟨by simpa using hne, solid_of_mem_splitOnP hm⟩

end Tabular.Text
