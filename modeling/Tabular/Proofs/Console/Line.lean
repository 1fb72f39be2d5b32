import Tabular.Proofs.Database.Transfer

namespace Tabular
open Text Unicode

/-- What a text asks for that has no white space around it. -/
inductive Command.Asks : List Char → Command → Prop where
  | blank : Asks [] .blank
  | close : Asks "@close".toList .close
  | info : Asks "@info".toList .info
  | save {gap : Char} (rest : List Char) (h : isSpace gap = true) :
    Asks ("@save".toList ++ gap :: rest) (.save (String.ofList (trim rest)))
  | load {gap : Char} (rest : List Char) (h : isSpace gap = true) :
    Asks ("@load".toList ++ gap :: rest) (.load (String.ofList (trim rest)))
  | unknown {text : List Char} (hat : text.head? = some '@') (hclose : text ≠ "@close".toList)
    (hinfo : text ≠ "@info".toList)
    (hfile : ∀ gap rest, isSpace gap = true → text ≠ "@save".toList ++ gap :: rest ∧
      text ≠ "@load".toList ++ gap :: rest) :
    Asks text (.unknown (String.ofList text))
  | statement {text : List Char} (hne : text ≠ []) (hat : text.head? ≠ some '@') :
    Asks text (.statement (String.ofList text))

namespace Command

theorem ofLine_of_cut_none {line : String} (h : cut (trim line.toList) = none)
    (hne : trim line.toList ≠ []) (hclose : trim line.toList ≠ "@close".toList)
    (hinfo : trim line.toList ≠ "@info".toList) :
    ofLine line = if (trim line.toList).head? = some '@'
      then .unknown (String.ofList (trim line.toList))
      else .statement (String.ofList (trim line.toList)) := by
  unfold ofLine
  dsimp only
  rw [h]
  dsimp only
  rw [if_neg (by rwa [List.isEmpty_iff]), if_neg hclose, if_neg hinfo]

theorem ofLine_of_cut_some {line : String} {head rest : List Char}
    (h : cut (trim line.toList) = some (head, rest)) :
    ofLine line = if head = "@save".toList then .save (String.ofList (trim rest))
      else if head = "@load".toList then .load (String.ofList (trim rest))
      else if (trim line.toList).head? = some '@'
        then .unknown (String.ofList (trim line.toList))
        else .statement (String.ofList (trim line.toList)) := by
  unfold ofLine
  dsimp only
  rw [h]

theorem ofLine_of_asks {line : String} {command : Command}
    (h : Asks (trim line.toList) command) : ofLine line = command := by
  have hcut {head rest : List Char} {gap : Char} (heq : trim line.toList = head ++ gap :: rest)
      (hsolid : head.all (!isSpace ·) = true) (hgap : isSpace gap = true) :
      cut (trim line.toList) = some (head, rest) :=
    cut_eq_some.mpr ⟨by simpa using hsolid, gap, hgap, heq⟩
  generalize ht : trim line.toList = text at h
  cases h with
  | blank =>
    unfold ofLine
    rw [ht]
    rfl
  | close =>
    unfold ofLine
    rw [ht]
    rfl
  | info =>
    unfold ofLine
    rw [ht]
    rfl
  | save rest hgap =>
    rw [ofLine_of_cut_some (hcut ht (by decide) hgap)]
    rfl
  | load rest hgap =>
    rw [ofLine_of_cut_some (hcut ht (by decide) hgap)]
    rfl
  | unknown hat hclose hinfo hfile =>
    subst ht
    cases hc : cut (trim line.toList) with
    | none =>
      have hne : trim line.toList ≠ [] := by
        intro hnil
        rw [hnil] at hat
        cases hat
      rw [ofLine_of_cut_none hc hne hclose hinfo, if_pos hat]
    | some parts =>
      obtain ⟨-, gap, hgap, heq⟩ := cut_eq_some.mp hc
      obtain ⟨hsave, hload⟩ := hfile gap parts.2 hgap
      rw [ofLine_of_cut_some hc, if_neg fun he => hsave (by rw [heq, he]),
        if_neg fun he => hload (by rw [heq, he]), if_pos hat]
  | statement hne hat =>
    subst ht
    cases hc : cut (trim line.toList) with
    | none =>
      rw [ofLine_of_cut_none hc hne (fun he => hat (by rw [he]; rfl))
        (fun he => hat (by rw [he]; rfl)), if_neg hat]
    | some parts =>
      obtain ⟨-, gap, -, heq⟩ := cut_eq_some.mp hc
      rw [ofLine_of_cut_some hc, if_neg fun he => hat (by rw [heq, he]; rfl),
        if_neg fun he => hat (by rw [heq, he]; rfl), if_neg hat]

theorem exists_asks (text : List Char) : ∃ command, Asks text command := by
  by_cases hat : text.head? = some '@'
  · by_cases hclose : text = "@close".toList
    · exact ⟨.close, by rw [hclose]; exact .close⟩
    by_cases hinfo : text = "@info".toList
    · exact ⟨.info, by rw [hinfo]; exact .info⟩
    by_cases hsave : ∃ gap rest, isSpace gap = true ∧ text = "@save".toList ++ gap :: rest
    · obtain ⟨gap, rest, hgap, rfl⟩ := hsave
      exact ⟨_, .save rest hgap⟩
    by_cases hload : ∃ gap rest, isSpace gap = true ∧ text = "@load".toList ++ gap :: rest
    · obtain ⟨gap, rest, hgap, rfl⟩ := hload
      exact ⟨_, .load rest hgap⟩
    refine ⟨_, .unknown hat hclose hinfo fun gap rest hgap => ⟨?_, ?_⟩⟩
    · exact fun heq => hsave ⟨gap, rest, hgap, heq⟩
    · exact fun heq => hload ⟨gap, rest, hgap, heq⟩
  · by_cases hne : text = []
    · exact ⟨.blank, by rw [hne]; exact .blank⟩
    · exact ⟨_, .statement hne hat⟩

/-- Each line asks for one thing, whatever white space is around it. -/
theorem ofLine_eq_iff {line : String} {command : Command} :
    ofLine line = command ↔ Asks (trim line.toList) command := by
  refine ⟨?_, ofLine_of_asks⟩
  rintro rfl
  obtain ⟨command, hasks⟩ := exists_asks (trim line.toList)
  rwa [ofLine_of_asks hasks]

end Command

namespace Database

variable {db : Database}

theorem carryOut_ne_selected {name : String} {plan : Table → Except Error Plan} {t : Table}
    (h : ∀ old found, plan old = .ok found → found.outcome ≠ .selected t) :
    (db.carryOut name plan).2 ≠ .ok (.selected t) := by
  unfold carryOut
  split
  · exact nofun
  · split
    · exact nofun
    · rename_i hplan
      split
      · exact fun heq => h _ _ hplan (Except.ok.inj heq)
      · exact nofun

/-- Only a query has a table for its outcome. -/
theorem apply_ne_selected (c : Change) (t : Table) : (db.apply c).2 ≠ .ok (.selected t) := by
  cases c with
  | createTable name columns key =>
    unfold apply
    dsimp only
    split <;> exact nofun
  | dropTable name =>
    unfold apply
    dsimp only
    split <;> exact nofun
  | insert name columns groups =>
    refine carryOut_ne_selected fun old found h => ?_
    obtain ⟨targets, -, -, rfl⟩ := Plan.insert_eq_ok.mp h
    exact nofun
  | update name column literal filter =>
    refine carryOut_ne_selected fun old found h => ?_
    obtain ⟨target, -, h⟩ := bind_eq_ok.mp h
    obtain ⟨v, -, h⟩ := bind_eq_ok.mp h
    obtain ⟨rows, -, h⟩ := bind_eq_ok.mp h
    cases h
    exact nofun
  | delete name filter =>
    refine carryOut_ne_selected fun old found h => ?_
    cases filter with
    | none =>
      cases h
      exact nofun
    | some predicates =>
      obtain ⟨rows, -, h⟩ := bind_eq_ok.mp h
      cases h
      exact nofun

end Database

section render

theorem append_ne_empty {a : String} (h : a ≠ "") (b : String) : a ++ b ≠ "" :=
  fun hab => h (String.append_eq_empty_iff.mp hab).1

theorem Table.render_ne_empty (t : Table) : t.render ≠ "" := by
  unfold render
  simp only [String.append_assoc]
  exact append_ne_empty (a := "Table: ") (by decide) _

theorem Database.render_ne_empty (db : Database) : db.render ≠ "" := by
  unfold render
  simp only [String.append_assoc]
  exact append_ne_empty (a := "Number of tables: ") (by decide) _

end render

namespace Database

/-- What a statement has to show: a query its table, a change nothing. -/
def tell (db : Database) (sql : String) : Except Error String :=
  match Statement.read sql with
  | .error fault => .error (.badSyntax fault)
  | .ok (.query q) => (db.answer q).map Table.render
  | .ok (.change c) => (db.apply c).2.map fun _ => ""

/-- The files when the database has been saved under a name. -/
def saveTo (db : Database) (d : Directory) (file : String) : Except Failure Directory := do
  (d.write file (← db.saved)).mapError .file

end Database

/-- What a line comes to: the database and the files behind it, and what there is to show. -/
structure Turn where
  db : Database
  directory : Directory
  result : Except Failure String

/-- A failure is shown by its message, behind an at sign. -/
def Turn.shown (turn : Turn) : String :=
  match turn.result with
  | .ok text => text
  | .error failure => "@" ++ failure.message ++ "\n"

/-- Only a load and a statement get at the database, and only a save at the files. -/
def Command.turn (folder : String) (db : Database) (d : Directory) : Command → Turn
  | .blank | .close => ⟨db, d, .ok ""⟩
  | .info => ⟨db, d, .ok db.render⟩
  | .save file =>
    match db.saveTo d (fileIn folder file) with
    | .ok written => ⟨db, written, .ok ""⟩
    | .error failure => ⟨db, d, .error failure⟩
  | .load file =>
    let (next, result) := db.load (d.read (fileIn folder file))
    ⟨next, d, result.map fun _ => ""⟩
  | .unknown line => ⟨db, d, .error (.engine (.badSyntax (.unknownCommand line)))⟩
  | .statement sql => ⟨(db.execute sql).1, d, (db.tell sql).mapError .engine⟩

namespace Memory

variable {memory : Memory}

/-- The host when the files have changed and a text has been written. -/
def advance (memory : Memory) (d : Directory) (text : String) : Memory :=
  { memory with directory := d, written := memory.written ++ text }

theorem advance_self (memory : Memory) : memory.advance memory.directory "" = memory := by
  unfold advance
  rw [String.append_empty]

theorem advance_advance (memory : Memory) (d d' : Directory) (text text' : String) :
    (memory.advance d text).advance d' text' = memory.advance d' (text ++ text') := by
  unfold advance
  rw [String.append_assoc]

theorem run_print (h : memory.closed = false) (text : String) :
    (Host.print (m := StateM Memory) text).run memory =
      (.ok (), memory.advance memory.directory text) := by
  simp only [Host.print, Memory.print, StateT.run_bind, StateT.run_get, pure_bind, advance, h]
  rfl

theorem run_write (memory : Memory) (file : String) (content : ByteArray) :
    (Host.write (m := StateM Memory) file content).run memory =
      match memory.directory.write file content with
      | .ok written => (.ok (), memory.advance written "")
      | .error fault => (.error fault, memory) := by
  simp only [Host.write, Memory.writeFile, StateT.run_bind, StateT.run_get, pure_bind, advance,
    String.append_empty]
  cases memory.directory.write file content <;> rfl

end Memory

namespace Console

variable {memory : Memory}

theorem run_display (h : memory.closed = false) (text : String) :
    (display (m := StateM Memory) text).run memory =
      (.ok (), memory.advance memory.directory text) := by
  unfold display
  rw [StateT.run_bind, Memory.run_print h]
  rfl

/-- A blank line is no step. -/
theorem handle_of_blank {m : Type → Type} [Monad m] [LawfulMonad m] [Host m] {line : String}
    (h : (trim line.toList).isEmpty) (folder : String) (db : Database) :
    handle (m := m) folder db line = pure (db, .ok .proceed) := by
  have hcommand : Command.ofLine line = .blank := by
    rw [Command.ofLine_eq_iff, List.isEmpty_iff.mp h]
    exact .blank
  unfold handle
  rw [hcommand]
  exact pure_bind _ _

/-- A change has nothing to show, and a table that is selected never has nothing. -/
theorem execute_eq {m : Type → Type} [Monad m] [LawfulMonad m] [Host m] (db : Database)
    (sql : String) :
    execute (m := m) db sql = Prod.mk (db.execute sql).1 <$>
      match db.tell sql with
      | .error e => pure (.error (.engine e))
      | .ok text => if text = "" then pure (.ok ()) else display text := by
  unfold execute Database.tell Database.execute
  cases Statement.read sql with
  | error fault => exact (map_pure _ _).symm
  | ok statement =>
    cases statement with
    | query q =>
      dsimp only
      cases db.answer q with
      | error e => exact (map_pure _ _).symm
      | ok t =>
        dsimp only [Except.map]
        rw [if_neg t.render_ne_empty]
        exact bind_pure_comp _ _
    | change c =>
      dsimp only
      have hne := db.apply_ne_selected c
      cases ha : db.apply c with
      | mk next result =>
        rw [ha] at hne
        cases result with
        | error e => exact (map_pure _ _).symm
        | ok outcome =>
          cases outcome with
          | selected t => exact absurd rfl (hne t)
          | _ => exact (map_pure _ _).symm

theorem run_execute (h : memory.closed = false) (db : Database) (sql : String) :
    (execute (m := StateM Memory) db sql).run memory =
      (((db.execute sql).1, ((db.tell sql).mapError .engine).map fun _ => ()),
        memory.advance memory.directory ((db.tell sql).toOption.getD "")) := by
  rw [execute_eq, StateT.run_map]
  cases db.tell sql with
  | error e => exact congrArg (Prod.mk _) memory.advance_self.symm
  | ok text =>
    dsimp only
    split
    · rename_i hnone
      rw [hnone]
      exact congrArg (Prod.mk _) memory.advance_self.symm
    · rw [run_display h]
      rfl

theorem run_save (memory : Memory) (db : Database) (file : String) :
    (save (m := StateM Memory) db file).run memory =
      match db.saveTo memory.directory file with
      | .ok written => (.ok (), memory.advance written "")
      | .error failure => (.error failure, memory) := by
  rw [save_eq]
  unfold Database.saveTo
  cases db.saved with
  | error failure => rfl
  | ok content =>
    dsimp only [bind, Except.bind]
    rw [StateT.run_map, Memory.run_write]
    cases memory.directory.write file content <;> rfl

/-- What is done for a line comes to its turn, but for the report of a failure. -/
theorem run_perform (h : memory.closed = false) (folder : String) (db : Database)
    (command : Command) :
    let turn := command.turn folder db memory.directory
    (perform (m := StateM Memory) folder db command).run memory =
      ((turn.db, turn.result.map fun _ => ()),
        memory.advance turn.directory (turn.result.toOption.getD "")) := by
  intro turn
  cases command with
  | blank => exact congrArg (Prod.mk _) memory.advance_self.symm
  | close => exact congrArg (Prod.mk _) memory.advance_self.symm
  | info =>
    unfold perform
    simp only [StateT.run_bind, run_display h]
    rfl
  | save file =>
    unfold perform turn Command.turn
    simp only [StateT.run_bind, run_save]
    cases db.saveTo memory.directory (fileIn folder file) with
    | error failure => exact congrArg (Prod.mk _) memory.advance_self.symm
    | ok written => rfl
  | load file =>
    unfold perform turn Command.turn
    simp only [StateT.run_bind, Database.run_load]
    cases db.load (memory.directory.read (fileIn folder file)) with
    | mk next result =>
      cases result <;> exact congrArg (Prod.mk _) memory.advance_self.symm
  | unknown line => exact congrArg (Prod.mk _) memory.advance_self.symm
  | statement sql =>
    unfold perform turn Command.turn
    dsimp only
    rw [run_execute h]
    cases db.tell sql with
    | error e => rfl
    | ok text => rfl

/-- Every line is answered, and only one that closes the session ends it. -/
theorem run_handle (h : memory.closed = false) (folder : String) (db : Database) (line : String) :
    let command := Command.ofLine line
    let turn := command.turn folder db memory.directory
    (handle (m := StateM Memory) folder db line).run memory =
      ((turn.db, .ok (if command = .close then .close else .proceed)),
        memory.advance turn.directory turn.shown) := by
  intro command turn
  have hperform : (perform (m := StateM Memory) folder db command).run memory =
      pure ((turn.db, turn.result.map fun _ => ()),
        memory.advance turn.directory (turn.result.toOption.getD "")) :=
    run_perform h folder db command
  unfold handle
  rw [StateT.run_bind, hperform, pure_bind]
  dsimp only
  unfold Turn.shown
  cases hresult : turn.result with
  | ok text => rfl
  | error failure =>
    have hclose : command ≠ .close := by
      intro heq
      have hturn : turn.result = .ok "" := by
        change (command.turn folder db memory.directory).result = _
        rw [heq]
        rfl
      rw [hturn] at hresult
      cases hresult
    rw [if_neg hclose]
    have hopen : (memory.advance turn.directory "").closed = false := h
    change StateT.run (bind (Host.print s!"@{failure.message}\n") _) (memory.advance _ "") = _
    rw [StateT.run_bind, Memory.run_print hopen, memory.advance_advance, String.empty_append]
    rfl

end Console

end Tabular
