import Tabular.Proofs.Console.Session

namespace Tabular

/-- The same host, but for an output that is at fault whatever it is given. -/
@[reducible]
def Host.failing {m : Type → Type} [Monad m] [host : Host m] (fault : FileFault) : Host m :=
  { host with
    print := fun _ => pure (.error fault)
    flush := pure (.error fault) }

theorem Failure.report_ne_empty (failure : Failure) : "@" ++ failure.message ++ "\n" ≠ "" :=
  append_ne_empty (append_ne_empty (by decide) _) _

namespace Memory

/-- The host of a memory as it is, by name. -/
abbrev host : Host (StateM Memory) := inferInstance

def close (memory : Memory) : Memory := { memory with closed := true }

/-- The memory with an output that takes everything. -/
def reopen (memory : Memory) : Memory := { memory with closed := false }

end Memory

/-- Where a session stands behind the first line with something to show, or at its end. -/
def untilShown (folder : String) (state : Database × Memory) : List String → Database × Memory
  | [] => state
  | line :: rest =>
    let next := Console.step folder state line
    if next.2.written = state.2.written then untilShown folder next rest else next

section untilShown

variable {folder : String} {state : Database × Memory} {line : String} {rest : List String}

theorem untilShown_of_quiet (h : (Console.step folder state line).2.written = state.2.written) :
    untilShown folder state (line :: rest) =
      untilShown folder (Console.step folder state line) rest :=
  if_pos h

theorem untilShown_of_loud (h : (Console.step folder state line).2.written ≠ state.2.written) :
    untilShown folder state (line :: rest) = Console.step folder state line :=
  if_neg h

end untilShown

/-- Over this host nothing is printed from a memory on, whatever becomes of its files. -/
structure Memory.Fails (host : Host (StateM Memory)) (fault : FileFault) (memory : Memory) :
    Prop where
  read : host.read = readFile
  write : host.write = writeFile
  print (d : Directory) (text : String) :
    (host.print text).run (memory.advance d "") = (.error fault, memory.advance d "")

namespace Memory.Fails

theorem failing (fault : FileFault) (memory : Memory) : Fails (.failing fault) fault memory :=
  ⟨rfl, rfl, fun _ _ => rfl⟩

theorem closed (memory : Memory) : Fails Memory.host .closed memory.close :=
  ⟨rfl, rfl, fun _ _ => rfl⟩

variable {host : Host (StateM Memory)} {fault : FileFault} {memory : Memory}

theorem advance (h : Fails host fault memory) (d : Directory) :
    Fails host fault (memory.advance d "") := by
  refine ⟨h.read, h.write, fun d' text => ?_⟩
  rw [advance_advance, String.append_empty]
  exact h.print d' text

theorem run_print (h : Fails host fault memory) (text : String) :
    (host.print text).run memory = (.error fault, memory) := by
  have hprint := h.print memory.directory text
  rwa [advance_self] at hprint

theorem run_display (h : Fails host fault memory) (text : String) :
    (@Console.display _ _ host text).run memory = (.error (.file fault), memory) := by
  unfold Console.display
  rw [StateT.run_bind, h.run_print]
  rfl

theorem save_eq (h : Fails host fault memory) (db : Database) (file : String) :
    @Console.save _ _ host db file = @Console.save _ _ Memory.host db file := by
  unfold Console.save
  rw [h.write]
  rfl

theorem load_eq (h : Fails host fault memory) (db : Database) (file : String) :
    @Console.load _ _ host db file = @Console.load _ _ Memory.host db file := by
  unfold Console.load
  rw [h.read]
  rfl

/-- What a turn has to show is not shown, and that is its failure unless it is a failure already. -/
def quiet (fault : FileFault) (turn : Turn) : Except Failure Unit :=
  turn.result.bind fun text => if text = "" then .ok () else .error (.file fault)

theorem run_execute (h : Fails host fault memory) (folder : String) (db : Database)
    (sql : String) :
    (@Console.execute _ _ host db sql).run memory =
      (((db.execute sql).1,
        quiet fault ((Command.statement sql).turn folder db memory.directory)), memory) := by
  have hresult : ((Command.statement sql).turn folder db memory.directory).result =
      (db.tell sql).mapError .engine := rfl
  unfold quiet
  rw [Console.execute_eq, StateT.run_map, hresult]
  cases db.tell sql with
  | error e => rfl
  | ok text =>
    dsimp only [Except.mapError, Except.bind]
    split
    · rfl
    · rw [h.run_display]
      rfl

/-- A save has written its file, and a statement has changed its table, by the time there is
something to show. -/
theorem run_perform (h : Fails host fault memory) (folder : String) (db : Database)
    (command : Command) :
    let turn := command.turn folder db memory.directory
    (@Console.perform _ _ host folder db command).run memory =
      ((turn.db, quiet fault turn), memory.advance turn.directory "") := by
  intro turn
  cases command with
  | blank => exact congrArg (Prod.mk _) memory.advance_self.symm
  | close => exact congrArg (Prod.mk _) memory.advance_self.symm
  | info =>
    unfold Console.perform quiet turn Command.turn
    simp only [StateT.run_bind, h.run_display, Except.bind, if_neg db.render_ne_empty]
    exact congrArg (Prod.mk _) memory.advance_self.symm
  | save file =>
    unfold Console.perform turn Command.turn
    dsimp only
    rw [h.save_eq, StateT.run_bind, Console.run_save]
    cases db.saveTo memory.directory (fileIn folder file) with
    | error failure => exact congrArg (Prod.mk _) memory.advance_self.symm
    | ok written => rfl
  | load file =>
    unfold Console.perform turn Command.turn
    dsimp only
    rw [h.load_eq, StateT.run_bind, Database.run_load]
    cases db.load (memory.directory.read (fileIn folder file)) with
    | mk next result =>
      cases result <;> exact congrArg (Prod.mk _) memory.advance_self.symm
  | unknown line => exact congrArg (Prod.mk _) memory.advance_self.symm
  | statement sql =>
    unfold Console.perform
    dsimp only
    rw [h.run_execute folder db sql]
    exact congrArg (Prod.mk _) memory.advance_self.symm

/-- A report of a failure is something to show, too. -/
theorem run_handle (h : Fails host fault memory) (folder : String) (db : Database)
    (line : String) :
    let command := Command.ofLine line
    let turn := command.turn folder db memory.directory
    (@Console.handle _ _ host folder db line).run memory =
      ((turn.db,
        if turn.shown = "" then .ok (if command = .close then .close else .proceed)
        else .error fault), memory.advance turn.directory "") := by
  intro command turn
  have hperform : (@Console.perform _ _ host folder db command).run memory =
      pure ((turn.db, quiet fault turn), memory.advance turn.directory "") :=
    h.run_perform folder db command
  unfold Console.handle
  rw [StateT.run_bind, hperform, pure_bind]
  dsimp only
  unfold quiet Turn.shown
  cases hresult : turn.result with
  | ok text =>
    dsimp only [Except.bind]
    by_cases htext : text = ""
    · rw [if_pos htext, if_pos htext]
      rfl
    · rw [if_neg htext, if_neg htext]
      dsimp only
      rw [StateT.run_bind, (h.advance turn.directory).run_print]
      rfl
  | error failure =>
    dsimp only [Except.bind]
    rw [if_neg failure.report_ne_empty, StateT.run_bind, (h.advance turn.directory).run_print]
    rfl

/-- A session breaks off behind the first line with something to show, and stands there as one that
has shown it. -/
theorem run_handleAll (h : Fails host fault memory) (folder : String) (db : Database)
    (lines : List String) :
    let last := untilShown folder (db, memory.reopen) (throughClose lines)
    (@Console.handleAll _ _ host folder db lines).run memory =
      ((last.1,
        if last.2.written = memory.written then
          .ok (if ∃ line ∈ lines, Closes line then .close else .proceed)
        else .error fault), memory.advance last.2.directory "") := by
  induction lines generalizing db memory with
  | nil =>
    change ((db, Except.ok Control.proceed), memory) =
      ((db, if memory.written = memory.written then _ else _),
        memory.advance memory.directory "")
    rw [if_pos rfl, if_neg (by simp), advance_self]
  | cons line lines ih =>
    intro last
    let turn := (Command.ofLine line).turn folder db memory.directory
    have hstep : Console.step folder (db, memory.reopen) line =
        (turn.db, memory.reopen.advance turn.directory turn.shown) := by
      have hopen : memory.reopen.closed = false := rfl
      exact Console.step_eq hopen folder db line
    have hhandle : (@Console.handle _ _ host folder db line).run memory = _ :=
      h.run_handle folder db line
    simp only [Command.ofLine_eq_close] at hhandle
    unfold Console.handleAll
    rw [StateT.run_bind, hhandle]
    by_cases hshown : turn.shown = ""
    · -- A quiet line leaves a memory that fails again, as if it had been opened after the line.
      have hquiet : Console.step folder (db, memory.reopen) line =
          (turn.db, (memory.advance turn.directory "").reopen) := by
        rw [hstep, hshown]
        rfl
      have hwritten : (memory.advance turn.directory "").reopen.written = memory.written :=
        String.append_empty
      rw [if_pos hshown]
      by_cases hline : Closes line
      · have hlast : last = (turn.db, (memory.advance turn.directory "").reopen) := by
          unfold last throughClose
          rw [if_pos hline, untilShown_of_quiet (by rw [hquiet]; exact hwritten), hquiet]
          rfl
        rw [if_pos hline, hlast, if_pos hwritten, if_pos ⟨line, List.mem_cons_self, hline⟩]
        rfl
      · have hlines : throughClose (line :: lines) = line :: throughClose lines := if_neg hline
        have hlast : last = untilShown folder (turn.db, (memory.advance turn.directory "").reopen)
            (throughClose lines) := by
          unfold last
          rw [hlines, untilShown_of_quiet (by rw [hquiet]; exact hwritten), hquiet]
        have hrest := ih (h.advance turn.directory) turn.db
        dsimp only at hrest
        rw [← hlast, advance_advance, String.empty_append] at hrest
        simp only [List.exists_mem_cons_iff, hline, false_or]
        rw [if_neg not_false, ← hwritten]
        exact hrest
    · have hloud : (Console.step folder (db, memory.reopen) line).2.written ≠ memory.written := by
        rw [hstep]
        exact fun heq => hshown (String.append_eq_left_iff.mp heq)
      have hlast : last = Console.step folder (db, memory.reopen) line := by
        unfold last throughClose
        split <;> exact untilShown_of_loud hloud
      rw [hlast, if_neg hshown, if_neg hloud, hstep]
      rfl

end Memory.Fails

namespace Console

/-- What is shown for a line is reported when it cannot be written, whatever the line is and
whatever has been shown of it, and the line has the same effect all the same. -/
theorem failing_output_reported {host : Host (StateM Memory)} {fault : FileFault}
    {memory : Memory} (h : memory.Fails host fault) (folder : String) (db : Database)
    (line : String) :
    let failing := (@handle _ _ host folder db line).run memory
    let working := (@handle _ _ Memory.host folder db line).run memory.reopen
    failing.1.1 = working.1.1 ∧ failing.2 = memory.advance working.2.directory "" ∧
      ∃ text control, working.2.written = memory.written ++ text ∧ working.1.2 = .ok control ∧
        (failing.1.2 = .error fault ↔ text ≠ "") ∧ (text = "" → failing.1.2 = .ok control) := by
  intro failing working
  let turn := (Command.ofLine line).turn folder db memory.directory
  have hopen : memory.reopen.closed = false := rfl
  have hfailing : failing = _ := h.run_handle folder db line
  have hworking : working = _ := run_handle hopen folder db line
  rw [hfailing, hworking]
  refine ⟨rfl, rfl, turn.shown, _, rfl, rfl, ?_, fun hnone => if_pos hnone⟩
  dsimp only
  constructor
  · intro herror hnone
    rw [if_pos hnone] at herror
    cases herror
  · exact fun hshown => if_neg hshown

theorem failing_output_reported_closed :
    let memory := Memory.ofDirectory .empty
    let full : FileFault := .other "No space left on device (os error 28)"
    memory.close.Fails Memory.host .closed ∧ memory.Fails (.failing full) full ∧
      ((@handle _ _ Memory.host "" .empty "@info").run memory.close).1.2 = .error .closed ∧
      ((@handle (StateM Memory) _ (.failing full) "" .empty " @close").run memory).1.2 =
        .ok .close := by
  intro memory full
  have hclosed := Memory.Fails.closed memory
  have hfull := Memory.Fails.failing full memory
  refine ⟨hclosed, hfull, ?_, ?_⟩
  · obtain ⟨-, -, text, control, hwritten, -, hreported, -⟩ :=
      failing_output_reported hclosed "" .empty "@info"
    refine hreported.mpr ?_
    rintro rfl
    revert hwritten
    decide +kernel
  · obtain ⟨-, -, text, control, hwritten, hcontrol, -, hquiet⟩ :=
      failing_output_reported hfull "" .empty " @close"
    have hnone : ((@handle _ _ Memory.host "" .empty " @close").run memory.reopen).2.written =
        "" ++ "" := by decide +kernel
    have htext : text = "" := String.append_right_inj "" |>.mp (hwritten.symm.trans hnone)
    have hclose : ((@handle _ _ Memory.host "" .empty " @close").run memory.reopen).1.2 =
        .ok .close := by decide +kernel
    rw [hquiet htext, ← hcontrol, hclose]

end Console

end Tabular
