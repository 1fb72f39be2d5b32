import Tabular.Host
import Tabular.Proofs.Text.Lines

namespace Tabular
open Text

namespace Text

theorem lines_ne_nil [BEq α] (feed : α) {as : List α} (h : as ≠ []) : lines feed as ≠ [] := by
  cases as with
  | nil => exact absurd rfl h
  | cons a rest =>
    unfold lines
    split
    · exact List.cons_ne_nil _ _
    · split <;> exact List.cons_ne_nil _ _

/-- What goes up to a feed is cut on its own. -/
theorem lines_append_of_ended [BEq α] [LawfulBEq α] {feed : α} {front : List α}
    (h : ∀ a ∈ front.getLast?, a = feed) (rest : List α) :
    lines feed (front ++ rest) = lines feed front ++ lines feed rest := by
  induction front with
  | nil => rfl
  | cons a front ih =>
    by_cases ha : a == feed
    · have hfront : ∀ b ∈ front.getLast?, b = feed := by
        intro b hb
        exact h b (by rw [List.getLast?_cons, hb]; rfl)
      simp only [List.cons_append, lines, ha, ↓reduceIte, ih hfront]
    · have hne : front ≠ [] := by
        rintro rfl
        exact ha (by rw [h a rfl]; exact beq_self_eq_true feed)
      have hfront : ∀ b ∈ front.getLast?, b = feed := by
        intro b hb
        exact h b (by rw [List.getLast?_cons, hb]; rfl)
      simp only [List.cons_append, lines, ha, Bool.false_eq_true, ↓reduceIte, ih hfront]
      cases hl : lines feed front with
      | nil => exact absurd hl (lines_ne_nil feed hne)
      | cons line others => rfl

/-- A stretch without a feed goes to the line behind it. -/
theorem lines_append_open [BEq α] [LawfulBEq α] {feed : α} {front : List α} (h : feed ∉ front)
    (hne : front ≠ []) (rest : List α) :
    lines feed (front ++ rest) = match lines feed rest with
      | [] => [front]
      | line :: others => (front ++ line) :: others := by
  induction front with
  | nil => exact absurd rfl hne
  | cons a front ih =>
    rw [List.mem_cons, not_or] at h
    have ha : (a == feed) = false := beq_eq_false_iff_ne.mpr (Ne.symm h.1)
    simp only [List.cons_append, lines, ha, Bool.false_eq_true, ↓reduceIte]
    cases front with
    | nil =>
      rw [List.nil_append]
      cases lines feed rest <;> rfl
    | cons b front =>
      rw [ih h.2 (List.cons_ne_nil b front)]
      cases lines feed rest <;> rfl

/-- Lines are cut alike where every element stands for some others, and only a feed for a feed. -/
theorem lines_flatMap_of_feed [BEq α] [LawfulBEq α] [BEq β] [LawfulBEq β] {feed : α} {feed' : β}
    {f : α → List β} (hfeed : f feed = [feed']) (hne : ∀ a, f a ≠ [])
    (hf : ∀ a, a ≠ feed → feed' ∉ f a) (as : List α) :
    lines feed' (as.flatMap f) = (lines feed as).map (·.flatMap f) := by
  induction as with
  | nil => rfl
  | cons a rest ih =>
    rw [List.flatMap_cons]
    by_cases ha : a = feed
    · subst ha
      rw [hfeed, List.singleton_append]
      simp [lines, ih]
    · have hbeq : (a == feed) = false := beq_eq_false_iff_ne.mpr ha
      rw [lines_append_open (hf a ha) (hne a), ih]
      simp only [lines, hbeq, Bool.false_eq_true, ↓reduceIte]
      cases lines feed rest <;> simp

/-- Only a line feed is written with its byte. -/
theorem not_feed_utf8EncodeChar {c : Char} (h : c ≠ '\n') : 10 ∉ String.utf8EncodeChar c := by
  have hval : c.val.toNat ≠ 10 := fun heq => h (Char.ext (UInt32.toNat_inj.mp heq))
  have hbyte : ∀ n, n % 256 ≠ 10 → (10 : UInt8) ≠ UInt8.ofNat n := by
    intro n hn heq
    have := congrArg UInt8.toNat heq
    rw [UInt8.toNat_ofNat'] at this
    exact hn this.symm
  unfold String.utf8EncodeChar
  dsimp only
  split
  · simp only [List.mem_singleton]
    exact hbyte _ (by omega)
  · split
    · simp only [List.mem_cons, List.not_mem_nil, or_false, not_or]
      exact ⟨hbyte _ (by omega), hbyte _ (by omega)⟩
    · split
      · simp only [List.mem_cons, List.not_mem_nil, or_false, not_or]
        exact ⟨hbyte _ (by omega), hbyte _ (by omega), hbyte _ (by omega)⟩
      · simp only [List.mem_cons, List.not_mem_nil, or_false, not_or]
        exact ⟨hbyte _ (by omega), hbyte _ (by omega), hbyte _ (by omega), hbyte _ (by omega)⟩

end Text

def bytes (text : String) : List UInt8 :=
  text.toUTF8.data.toList

theorem bytes_ofList (cs : List Char) :
    bytes (String.ofList cs) = cs.flatMap String.utf8EncodeChar := by
  have hdata : (String.ofList cs).toUTF8.data = (cs.flatMap String.utf8EncodeChar).toArray :=
    List.data_toByteArray
  unfold bytes
  rw [hdata]

/-- The lines of a text, each with what stands in front of its feed. -/
def linesOf (text : String) : List String :=
  (lines '\n' text.toList).map String.ofList

theorem lines_bytes (text : String) : lines 10 (bytes text) = (linesOf text).map bytes := by
  have htext : bytes text = text.toList.flatMap String.utf8EncodeChar := by
    rw [← bytes_ofList, String.ofList_toList]
  have hne : ∀ c, String.utf8EncodeChar c ≠ [] := by
    intro c hnil
    have hlength := String.length_utf8EncodeChar c
    rw [hnil] at hlength
    exact Nat.ne_of_lt c.utf8Size_pos hlength
  have hfeed : String.utf8EncodeChar '\n' = [10] := rfl
  rw [htext, lines_flatMap_of_feed hfeed hne fun _ => not_feed_utf8EncodeChar, linesOf,
    List.map_map]
  exact List.map_congr_left fun cs _ => (bytes_ofList cs).symm

theorem decodeText_toUTF8 (text : String) : decodeText text.toUTF8 = .ok text := by
  have hvalid : String.fromUTF8? text.toUTF8 = some text := dif_pos text.isValidUTF8
  unfold decodeText
  rw [hvalid]

theorem decodeLine_bytes (text : String) : decodeLine (bytes text) = .ok text :=
  decodeText_toUTF8 text

end Tabular
