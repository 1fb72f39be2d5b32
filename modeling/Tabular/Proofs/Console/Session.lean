import Tabular.Proofs.Console.Line

namespace Tabular
open Text Unicode

/-- A line that closes a session has white space around it at most. -/
def Closes (line : String) : Prop := trim line.toList = "@close".toList

instance (line : String) : Decidable (Closes line) :=
  inferInstanceAs (Decidable (trim line.toList = "@close".toList))

theorem Command.ofLine_eq_close {line : String} : ofLine line = .close ↔ Closes line := by
  rw [ofLine_eq_iff]
  unfold Closes
  constructor
  · intro h
    generalize trim line.toList = text at h
    cases h
    rfl
  · intro h
    rw [h]
    exact .close

/-- The lines up to the first one that closes the session, and that one. -/
def throughClose : List String → List String
  | [] => []
  | line :: rest => if Closes line then [line] else line :: throughClose rest

section throughClose

variable {front rest : List String}

theorem throughClose_of_none (h : ∀ line ∈ front, ¬ Closes line) (rest : List String) :
    throughClose (front ++ rest) = front ++ throughClose rest := by
  induction front with
  | nil => rfl
  | cons line front ih =>
    obtain ⟨hline, hfront⟩ := List.forall_mem_cons.mp h
    rw [List.cons_append, throughClose, if_neg hline, ih hfront, List.cons_append]

theorem throughClose_eq_self (h : ∀ line ∈ front, ¬ Closes line) : throughClose front = front := by
  have happend := throughClose_of_none h []
  rwa [List.append_nil, throughClose, List.append_nil] at happend

theorem throughClose_of_some (h : ∃ line ∈ front, Closes line) (rest : List String) :
    throughClose (front ++ rest) = throughClose front := by
  induction front with
  | nil =>
    obtain ⟨line, hm, -⟩ := h
    cases hm
  | cons line front ih =>
    rw [List.cons_append, throughClose, throughClose]
    split
    · rfl
    · rename_i hline
      rw [ih (by simpa [hline] using h)]

end throughClose

/-- What is read of what can all be read. -/
theorem untilFault_map {read : α → Except ε β} {spell : β → α} {bs : List β}
    (h : ∀ b ∈ bs, read (spell b) = .ok b) : untilFault read (bs.map spell) = (bs, .ok ()) := by
  induction bs with
  | nil => rfl
  | cons b bs ih =>
    obtain ⟨hb, hbs⟩ := List.forall_mem_cons.mp h
    rw [List.map_cons, untilFault, hb]
    dsimp only
    rw [ih hbs]

namespace Console

variable {m : Type → Type} [Monad m] [LawfulMonad m] [Host m]

theorem handleBytes_map_bytes (folder : String) (db : Database) (texts : List String) :
    handleBytes (m := m) folder db (texts.map bytes) = handleAll folder db texts := by
  unfold handleBytes
  rw [untilFault_map fun text _ => decodeLine_bytes text]
  dsimp only
  conv_rhs => rw [← bind_pure (handleAll folder db texts)]
  congr 1
  funext ended
  obtain ⟨next, result⟩ := ended
  cases result with
  | error fault => rfl
  | ok control => cases control <;> rfl

variable {memory : Memory}

/-- One more line of a session. -/
def step (folder : String) (state : Database × Memory) (line : String) : Database × Memory :=
  let handled := (handle (m := StateM Memory) folder state.1 line).run state.2
  (handled.1.1, handled.2)

theorem step_eq (h : memory.closed = false) (folder : String) (db : Database) (line : String) :
    let turn := (Command.ofLine line).turn folder db memory.directory
    step folder (db, memory) line = (turn.db, memory.advance turn.directory turn.shown) := by
  unfold step
  rw [run_handle h]

theorem closed_step (h : memory.closed = false) (folder : String) (db : Database)
    (line : String) : (step folder (db, memory) line).2.closed = false := by
  rw [step_eq h]
  exact h

theorem closed_foldl (h : memory.closed = false) (folder : String) (db : Database)
    (lines : List String) : (lines.foldl (step folder) (db, memory)).2.closed = false := by
  induction lines generalizing db memory with
  | nil => exact h
  | cons line rest ih => exact ih (closed_step h folder db line) _

theorem run_handleAll (h : memory.closed = false) (folder : String) (db : Database)
    (lines : List String) :
    let last := (throughClose lines).foldl (step folder) (db, memory)
    (handleAll (m := StateM Memory) folder db lines).run memory =
      ((last.1, .ok (if ∃ line ∈ lines, Closes line then .close else .proceed)), last.2) := by
  induction lines generalizing db memory with
  | nil => rfl
  | cons line rest ih =>
    have hnext : (step folder (db, memory) line).2.closed = false := closed_step h folder db line
    have hhandle : (handle (m := StateM Memory) folder db line).run memory =
        (((step folder (db, memory) line).1, .ok (if Closes line then .close else .proceed)),
          (step folder (db, memory) line).2) := by
      unfold step
      rw [run_handle h]
      simp only [Command.ofLine_eq_close]
    unfold handleAll throughClose
    rw [StateT.run_bind, hhandle]
    by_cases hline : Closes line
    · rw [if_pos hline, if_pos hline, if_pos ⟨line, List.mem_cons_self, hline⟩]
      rfl
    · rw [if_neg hline, if_neg hline]
      simp only [List.exists_mem_cons_iff, hline, false_or]
      exact ih hnext (step folder (db, memory) line).1

theorem run_finish (h : memory.closed = false) (db : Database) (control : Control) :
    (finish (m := StateM Memory) (db, .ok control)).run memory = ((db, .ok ()), memory) := by
  simp only [finish, Host.flush, Memory.flush, StateT.run_bind, StateT.run_get, pure_bind, h]
  rfl

end Console

end Tabular
