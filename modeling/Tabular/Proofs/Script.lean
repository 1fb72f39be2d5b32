import Tabular.Proofs.Console.Session
import Tabular.Proofs.Directory
import Tabular.Script

namespace Tabular
open Text

theorem Text.lines_splitAtLast [BEq α] [LawfulBEq α] (feed : α) (as rest : List α) :
    lines feed (as ++ rest) =
      lines feed (splitAtLast feed as).1 ++ lines feed ((splitAtLast feed as).2 ++ rest) := by
  have hsplit : (splitAtLast feed as).1 ++ (splitAtLast feed as).2 = as := by
    unfold splitAtLast
    rw [← List.reverse_append, List.takeWhile_append_dropWhile, List.reverse_reverse]
  have hended : ∀ a ∈ (splitAtLast feed as).1.getLast?, a = feed := by
    intro a ha
    have hnot := List.head?_dropWhile_not (· != feed) as.reverse
    unfold splitAtLast at ha
    rw [List.getLast?_reverse] at ha
    rw [show (as.reverse.dropWhile (· != feed)).head? = some a from ha] at hnot
    simpa using hnot
  rw [← lines_append_of_ended hended, ← List.append_assoc, hsplit]

namespace Script

variable {content : ByteArray} {offset : Nat}

theorem piece_eq_take (content : ByteArray) (offset : Nat) : piece content offset =
    (content.data.toList.drop offset).take (min (offset + pieceSize) sizeLimit - offset) := by
  unfold piece
  rw [ByteArray.data_extract, Array.toList_extract, List.extract_eq_drop_take', List.drop_take]

/-- A piece is what comes next in the file. -/
theorem piece_append_drop (content : ByteArray) (offset : Nat) : piece content offset ++
      content.data.toList.drop (offset + (piece content offset).length) =
    content.data.toList.drop offset := by
  have hprefix : piece content offset <+: content.data.toList.drop offset := by
    rw [piece_eq_take]
    exact List.take_prefix _ _
  rw [← List.drop_drop]
  exact List.prefix_iff_eq_append.mp hprefix

/-- Only at its end does a file give nothing. -/
theorem size_le_of_piece_eq_nil (hsize : content.size ≤ sizeLimit)
    (h : piece content offset = []) : content.size ≤ offset := by
  rw [piece_eq_take, List.take_eq_nil_iff, List.drop_eq_nil_iff, Array.length_toList] at h
  rcases h with h | h
  · unfold pieceSize at h
    omega
  · exact h

/-- The lines that are whole come first, and those that wait for more go on in the next piece. -/
theorem lines_settle (hsize : content.size ≤ sizeLimit) (waiting : List UInt8) :
    let next := piece content offset
    lines 10 (waiting ++ content.data.toList.drop offset) = lines 10 (settle waiting next).1 ++
      lines 10 ((settle waiting next).2 ++ content.data.toList.drop (offset + next.length)) := by
  intro next
  unfold settle
  split
  · rename_i hnil
    have hend := size_le_of_piece_eq_nil hsize (List.isEmpty_iff.mp hnil)
    rw [List.drop_eq_nil_of_le hend, List.drop_eq_nil_of_le (Nat.le_add_right_of_le hend),
      List.append_nil]
    exact (List.append_nil _).symm
  · rw [← piece_append_drop content offset, ← List.append_assoc]
    exact lines_splitAtLast 10 _ _

end Script

namespace Console

/-- The file holds the same whenever a line of the session has been handled. -/
def Steady (folder file : String) (content : ByteArray) (texts : List String)
    (state : Database × Memory) : Prop :=
  ∀ done rest, throughClose texts = done ++ rest →
    (done.foldl (step folder) state).2.directory.read file = .ok content

/-- No save that the session comes to changes what the file holds. -/
def Spared (folder file : String) (texts : List String) (state : Database × Memory) : Prop :=
  ∀ done line rest, throughClose texts = done ++ line :: rest →
    ∀ name, Command.ofLine line = .save name →
      let before := done.foldl (step folder) state
      (step folder before line).2.directory.read file = before.2.directory.read file

variable {folder file : String} {content : ByteArray} {front rest texts : List String}
  {state : Database × Memory}

theorem Steady.now (h : Steady folder file content front state) :
    state.2.directory.read file = .ok content :=
  h [] (throughClose front) rfl

theorem Steady.right (h : Steady folder file content (front ++ rest) state)
    (hopen : ∀ line ∈ front, ¬ Closes line) :
    Steady folder file content rest (front.foldl (step folder) state) := by
  intro done others heq
  have hdone := h (front ++ done) others
    (by rw [throughClose_of_none hopen, heq, List.append_assoc])
  rwa [List.foldl_append] at hdone

/-- Files change only as a save writes to one of them. -/
theorem directory_step (folder : String) (hopen : state.2.closed = false) (line : String) :
    (step folder state line).2.directory = state.2.directory ∨
      ∃ name written, Command.ofLine line = .save name ∧
        state.2.directory.write (fileIn folder name) written =
          .ok (step folder state line).2.directory := by
  rw [step_eq hopen]
  cases hcommand : Command.ofLine line with
  | save name =>
    cases hsaved : state.1.saveTo state.2.directory (fileIn folder name) with
    | error failure =>
      left
      simp only [Command.turn, hsaved]
      rfl
    | ok d =>
      obtain ⟨written, -, hwrite⟩ := bind_eq_ok.mp hsaved
      right
      refine ⟨name, written, rfl, ?_⟩
      simp only [Command.turn, hsaved]
      exact mapError_eq_ok.mp hwrite
  | _ => exact Or.inl rfl

/-- What a session starts with and every line of it keeps holds all the way. -/
theorem foldl_step_induction {P : Database × Memory → Prop} (hstart : P state)
    (hstep : ∀ done line rest, throughClose texts = done ++ line :: rest →
      P (done.foldl (step folder) state) → P (step folder (done.foldl (step folder) state) line)) :
    ∀ done rest, throughClose texts = done ++ rest → P (done.foldl (step folder) state) := by
  intro done
  induction done using List.reverseRecOn with
  | nil => exact fun _ _ => hstart
  | append_singleton done line ih =>
    intro rest heq
    rw [List.append_assoc, List.singleton_append] at heq
    rw [List.foldl_append, List.foldl_cons, List.foldl_nil]
    exact hstep done line rest heq (ih (line :: rest) heq)

theorem Spared.steady (h : Spared folder file texts state) (hopen : state.2.closed = false)
    (hread : state.2.directory.read file = .ok content) :
    Steady folder file content texts state := by
  refine foldl_step_induction (P := fun reached => reached.2.directory.read file = .ok content)
    hread ?_
  intro done line rest heq hbefore
  have hopen' : (done.foldl (step folder) state).2.closed = false :=
    closed_foldl hopen folder state.1 done
  rcases directory_step folder hopen' line with hsame | ⟨name, -, hsave, -⟩
  · exact (congrArg (·.read file) hsame).trans hbefore
  · exact (h done line rest heq name hsave).trans hbefore

/-- A file is spared if no save names it, whatever other name for it there may be. -/
theorem spared_of_spares (hopen : state.2.closed = false)
    (hread : state.2.directory.read file = .ok content)
    (h : ∀ line ∈ throughClose texts, ∀ name, Command.ofLine line = .save name →
      state.2.directory.Spares file (fileIn folder name)) :
    Spared folder file texts state := by
  have hkept : ∀ done rest, throughClose texts = done ++ rest →
      state.2.directory.Keeps file content (done.foldl (step folder) state).2.directory := by
    refine foldl_step_induction
      (P := fun reached => state.2.directory.Keeps file content reached.2.directory)
      ⟨.refl _, hread⟩ ?_
    intro done line rest heq hbefore
    have hopen' : (done.foldl (step folder) state).2.closed = false :=
      closed_foldl hopen folder state.1 done
    rcases directory_step folder hopen' line with hsame | ⟨name, written, hsave, hwrite⟩
    · rw [hsame]
      exact hbefore
    · exact hbefore.write (h line (by rw [heq]; simp) name hsave) hread hwrite
  intro done line rest heq name hsave before
  have hafter := hkept (done ++ [line]) rest (by rw [heq, List.append_assoc]; rfl)
  rw [List.foldl_append] at hafter
  exact hafter.held.trans (hkept done (line :: rest) heq).held.symm

end Console

namespace Script

open Console

variable {folder script : String} {content : ByteArray} {memory : Memory}

theorem run_runFrom (hsize : content.size ≤ sizeLimit) {db : Database} {offset : Nat}
    {waiting : List UInt8} {texts : List String} (hopen : memory.closed = false)
    (hsteady : Steady folder script content texts (db, memory))
    (hlines : lines 10 (waiting ++ content.data.toList.drop offset) = texts.map bytes) :
    let last := (throughClose texts).foldl (step folder) (db, memory)
    (runFrom (m := StateM Memory) folder script db offset waiting).run memory =
      ((last.1, .ok ()), last.2) := by
  induction db, offset, waiting using runFrom.induct generalizing memory texts with
  | case1 db offset waiting ih =>
    have hread : (Host.read (m := StateM Memory) script).run memory =
        pure (.ok content, memory) := by
      rw [← hsteady.now]
      rfl
    rw [lines_settle hsize] at hlines
    obtain ⟨front, rest, rfl, hfront, hrest⟩ := List.map_eq_append_iff.mp hlines.symm
    rw [runFrom, StateT.run_bind, hread, pure_bind]
    dsimp only
    split
    · rename_i hstop
      rw [Bool.and_eq_true, List.isEmpty_iff, List.isEmpty_iff] at hstop
      obtain ⟨hnext, rfl⟩ := hstop
      have hend := size_le_of_piece_eq_nil hsize hnext
      rw [hnext] at hfront hrest
      rw [List.drop_eq_nil_of_le (Nat.le_add_right_of_le hend)] at hrest
      obtain rfl : front = [] := List.map_eq_nil_iff.mp hfront
      obtain rfl : rest = [] := List.map_eq_nil_iff.mp hrest
      exact run_finish hopen db .close
    · rename_i hgo
      have hafter : (front.foldl (step folder) (db, memory)).2.closed = false :=
        closed_foldl hopen folder db front
      rw [← hfront, handleBytes_map_bytes, StateT.run_bind, run_handleAll hopen]
      by_cases hclose : ∃ line ∈ front, Closes line
      · rw [if_pos hclose, throughClose_of_some hclose]
        exact run_finish (closed_foldl hopen folder db _) _ .close
      · rw [if_neg hclose]
        have hnone : ∀ line ∈ front, ¬ Closes line := by simpa using hclose
        rw [throughClose_eq_self hnone, throughClose_of_none hnone, List.foldl_append]
        exact ih content hgo _ hafter (hsteady.right hnone) hrest.symm

/-- A script that stays as it is while it runs is handled line by line. -/
theorem run_of_steady {text : String} (hsize : text.toUTF8.size ≤ sizeLimit) (db : Database)
    (hopen : memory.closed = false)
    (hsteady : Steady folder script text.toUTF8 (linesOf text) (db, memory)) :
    let last := (throughClose (linesOf text)).foldl (step folder) (db, memory)
    (run (m := StateM Memory) folder script db).run memory = ((last.1, .ok ()), last.2) := by
  apply run_runFrom hsize hopen hsteady
  exact lines_bytes text

end Script

end Tabular
