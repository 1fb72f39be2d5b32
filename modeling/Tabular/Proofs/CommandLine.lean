import Tabular.CommandLine
import Tabular.Proofs.Script
import Tabular.Proofs.Text.Typed

namespace Tabular
open Text

namespace Console

variable {state : Database × Memory}

/-- The same host, with something else to read for its input. -/
def withInput (input : ByteArray) (state : Database × Memory) : Database × Memory :=
  (state.1, { state.2 with input := input })

/-- No line looks at the input that it came from. -/
theorem foldl_withInput (folder : String) (hopen : state.2.closed = false) (input : ByteArray)
    (texts : List String) : texts.foldl (step folder) (withInput input state) =
      withInput input (texts.foldl (step folder) state) := by
  induction texts generalizing state with
  | nil => rfl
  | cons line rest ih =>
    obtain ⟨db, memory⟩ := state
    have hopen : memory.closed = false := hopen
    have hopen' : ({ memory with input := input } : Memory).closed = false := hopen
    have hline : step folder (withInput input (db, memory)) line =
        withInput input (step folder (db, memory) line) := by
      unfold withInput
      rw [step_eq hopen', step_eq hopen]
      rfl
    rw [List.foldl_cons, hline]
    exact ih (closed_step hopen folder db line)

end Console

namespace CommandLine

open Console

theorem start_of_run {m : Type → Type} [Monad m] [Host m] {arguments : List String}
    {environment : Option String} {folder : String} {o : Options}
    (hread : readArguments .initial arguments = .ok (.run o))
    (hfolder : o.folderOr environment = .ok folder) :
    start (m := m) arguments environment = run o folder := by
  unfold start
  rw [hread]
  dsimp only
  rw [hfolder]

variable {memory : Memory}

theorem run_runScript {folder script text : String} (hopen : memory.closed = false)
    (hsize : text.toUTF8.size ≤ Script.sizeLimit)
    (hsteady : Steady folder script text.toUTF8 (linesOf text) (.empty, memory)) :
    (runScript (m := StateM Memory) folder script).run memory =
      (0, ((throughClose (linesOf text)).foldl (step folder) (.empty, memory)).2) := by
  unfold runScript
  rw [StateT.run_bind, Script.run_of_steady hsize .empty hopen hsteady]
  rfl

theorem typedLine_bytes {line : String}
    (h : followBackspaces line.toList = some line.toList) : typedLine (bytes line) = .ok line := by
  unfold typedLine
  rw [decodeLine_bytes]
  dsimp only
  rw [h]
  dsimp only
  rw [String.ofList_toList]

section converseOn

variable {m : Type → Type} [Monad m] [LawfulMonad m] [Host m]

/-- A blank line that is passed over is one that the console would make nothing of. -/
theorem converseOn_cons {bytes : List UInt8} {line : String} (h : typedLine bytes = .ok line)
    (folder : String) (db : Database) (rest : List (List UInt8)) :
    converseOn (m := m) folder db (bytes :: rest) = Console.handle folder db line >>= fun
      | (next, .ok .proceed) => converseOn folder next rest
      | (_, result) => pure (exitCode result) := by
  rw [converseOn, h]
  dsimp only
  split
  · rename_i hblank
    rw [handle_of_blank hblank, pure_bind]
  · rfl

/-- Lines that come in as they were typed are handled one after another. -/
theorem converseOn_eq {lines : List String} (h : ∀ line ∈ lines, typedLine (bytes line) = .ok line)
    (folder : String) (db : Database) :
    converseOn (m := m) folder db (lines.map bytes) =
      (fun left => exitCode left.2) <$> handleAll folder db lines := by
  induction lines generalizing db with
  | nil =>
    unfold handleAll
    rw [map_pure]
    rfl
  | cons line rest ih =>
    obtain ⟨hline, hrest⟩ := List.forall_mem_cons.mp h
    rw [List.map_cons, converseOn_cons hline, handleAll, map_bind]
    refine bind_congr fun left => ?_
    match left with
    | (next, .ok .proceed) => exact ih hrest next
    | (next, .ok .close) =>
      dsimp only
      rw [map_pure]
    | (next, .error fault) =>
      dsimp only
      rw [map_pure]

end converseOn

theorem run_converse {text : String} (folder : String) (hopen : memory.closed = false)
    (hinput : memory.input = text.toUTF8)
    (hkept : ∀ line ∈ linesOf text, followBackspaces line.toList = some line.toList) :
    (converse (m := StateM Memory) folder).run memory =
      (0, ((throughClose (linesOf text)).foldl (step folder) (.empty, memory)).2) := by
  have hread : (Host.input (m := StateM Memory)).run memory = pure (text.toUTF8, memory) := by
    rw [← hinput]
    rfl
  have hlines : lines 10 text.toUTF8.data.toList = (linesOf text).map bytes := lines_bytes text
  unfold converse
  rw [StateT.run_bind, hread, pure_bind]
  dsimp only
  rw [hlines, converseOn_eq fun line hline => typedLine_bytes (hkept line hline), StateT.run_map,
    run_handleAll hopen]
  rfl

/-- A script over which none of its saves writes shows the same, and leaves the same files, as its
text does for the program's input, and both end well. The lines are to come in as they were typed:
only a backspace keeps them from it. -/
theorem start_script_eq_typed {memory : Memory} {arguments others : List String}
    {environment choice : Option String} {folder script text : String}
    {verbose verbose' quiet : Bool}
    (hscript : readArguments .initial arguments =
      .ok (.run ⟨choice, none, some script, verbose, quiet⟩))
    (htyped : readArguments .initial others = .ok (.run ⟨choice, none, none, verbose', true⟩))
    (hfolder : Options.folderOr ⟨choice, none, none, verbose', true⟩ environment = .ok folder)
    (hopen : memory.closed = false) (hread : memory.directory.read script = .ok text.toUTF8)
    (hsize : text.toUTF8.size ≤ Script.sizeLimit)
    (hspared : Spared folder script (linesOf text) (.empty, memory))
    (hkept : ∀ line ∈ linesOf text, followBackspaces line.toList = some line.toList) :
    let ran := (start (m := StateM Memory) arguments environment).run memory
    let typed := (start (m := StateM Memory) others environment).run
      { memory with input := text.toUTF8 }
    ran.1 = 0 ∧ typed.1 = 0 ∧ ran.2.written = typed.2.written ∧
      ran.2.directory = typed.2.directory := by
  intro ran typed
  let last := (throughClose (linesOf text)).foldl (step folder) (.empty, memory)
  have hran : ran = (0, last.2) := by
    unfold ran
    rw [start_of_run hscript hfolder]
    exact run_runScript hopen hsize (hspared.steady hopen hread)
  have hshown : typed = (0, { last.2 with input := text.toUTF8 }) := by
    unfold typed
    rw [start_of_run htyped hfolder]
    have hopen' : ({ memory with input := text.toUTF8 } : Memory).closed = false := hopen
    have hinput : (throughClose (linesOf text)).foldl (step folder)
        (withInput text.toUTF8 (.empty, memory)) = withInput text.toUTF8 last :=
      foldl_withInput folder hopen text.toUTF8 _
    have hconverse := run_converse folder hopen' rfl hkept
    exact hconverse.trans (congrArg (fun state => (0, state.2)) hinput)
  rw [hran, hshown]
  exact ⟨rfl, rfl, rfl, rfl⟩

/-- A line with a carriage return, a save, a statement that fails, and no feed at the end. -/
def seatScript : String :=
  "CREATE TABLE seat (place INT)\r\n@save seats\nSELECT row FROM seat\n @info"

theorem start_script_eq_typed_seats :
    let memory := Memory.ofDirectory ⟨[(["s"], .file seatScript.toUTF8)]⟩
    let ran := (start (m := StateM Memory) ["-f", "s"] none).run memory
    let typed := (start (m := StateM Memory) ["-q"] none).run
      { memory with input := seatScript.toUTF8 }
    ran.1 = 0 ∧ typed.1 = 0 ∧ ran.2.written = typed.2.written ∧
      ran.2.directory = typed.2.directory := by
  intro memory
  have hopen : memory.closed = false := rfl
  have hread : memory.directory.read "s" = .ok seatScript.toUTF8 := rfl
  have hscript : readArguments .initial ["-f", "s"] =
      .ok (.run ⟨none, none, some "s", false, false⟩) := by decide +kernel
  have htyped : readArguments .initial ["-q"] = .ok (.run ⟨none, none, none, false, true⟩) := by
    decide +kernel
  have hspared : Spared "." "s" (linesOf seatScript) (.empty, memory) := by
    have hcommands : (throughClose (linesOf seatScript)).map Command.ofLine =
        [.statement "CREATE TABLE seat (place INT)", .save "seats",
          .statement "SELECT row FROM seat", .info] := by
      decide +kernel
    refine spared_of_spares hopen hread fun line hline name hsave content d hwrite => ?_
    have hmem : Command.save name ∈ (throughClose (linesOf seatScript)).map Command.ofLine :=
      List.mem_map.mpr ⟨line, hline, hsave⟩
    obtain rfl : name = "seats" := by simpa [hcommands] using hmem
    have hput : memory.directory.write (fileIn "." "seats") content =
        .ok (memory.directory.put ["seats"] (.file content)) := rfl
    obtain rfl := Except.ok.inj (hwrite.symm.trans hput)
    rfl
  have hkept : ∀ line ∈ linesOf seatScript, '\x08' ∉ line.toList := by decide +kernel
  exact start_script_eq_typed hscript htyped rfl hopen hread (by decide +kernel) hspared
    fun line hline => followBackspaces_of_not_mem (hkept line hline)

end CommandLine

end Tabular
