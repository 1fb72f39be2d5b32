import Tabular.Database.Execute
import Tabular.Host
import Tabular.SaveFile.Decode
import Tabular.SaveFile.Encode

namespace Tabular
open Text

/-- What a line asks for. -/
inductive Command where
  | blank
  | close
  | info
  | save (file : String)
  | load (file : String)
  | unknown (line : String)
  | statement (sql : String)
deriving DecidableEq, Repr

/-- A line that starts with an at sign is no statement. -/
def Command.ofLine (line : String) : Command :=
  let text := trim line.toList
  let other : Command :=
    if text.head? = some '@' then .unknown (String.ofList text)
    else .statement (String.ofList text)
  match cut text with
  | none =>
    if text.isEmpty then .blank
    else if text = "@close".toList then .close
    else if text = "@info".toList then .info
    else other
  | some (head, rest) =>
    let file := String.ofList (trim rest)
    if head = "@save".toList then .save file
    else if head = "@load".toList then .load file
    else other

namespace Database

def encode (db : Database) : Except Failure String :=
  (SaveFile.encode db.tables).mapError .saveFile

/-- The tables of a save file follow those already there, and are counted; on any failure none of
them does. -/
def restore (db : Database) (content : ByteArray) : Except Failure (Database × Nat) := do
  let text ← (decodeText content).mapError .file
  let tables ← (SaveFile.decode text).mapError .saveFile
  let next ← (db.addAll tables).mapError .engine
  return (next, tables.length)

/-- The number of tables and then each of them, counted from one. -/
def render (db : Database) : String :=
  s!"Number of tables: {db.tables.length}\n" ++
    String.join (db.tables.zipIdx.map fun (t, index) =>
      s!"------------TABLE {index + 1}:\n{t.render}")

end Database

inductive Control where
  | proceed
  | close
deriving DecidableEq, Repr

/-- What is read up to the first fault, and that fault. -/
def untilFault (read : α → Except ε β) : List α → List β × Except ε Unit
  | [] => ([], .ok ())
  | a :: rest =>
    match read a with
    | .ok b =>
      let (bs, ending) := untilFault read rest
      (b :: bs, ending)
    | .error fault => ([], .error fault)

namespace Console

variable {m : Type → Type} [Monad m] [Host m]

def save (db : Database) (file : String) : m (Except Failure Unit) := do
  match db.encode with
  | .error failure => return .error failure
  | .ok text => return (← Host.write file text.toUTF8).mapError .file

def load (db : Database) (file : String) : m (Database × Except Failure Nat) := do
  match ← Host.read file with
  | .error fault => return (db, .error (.file fault))
  | .ok content =>
    match db.restore content with
    | .ok (next, count) => return (next, .ok count)
    | .error failure => return (db, .error failure)

def display (text : String) : m (Except Failure Unit) := do
  return (← Host.print text).mapError .file

/-- Of the outcomes only a selected table is shown. -/
def execute (db : Database) (sql : String) : m (Database × Except Failure Unit) := do
  match db.execute sql with
  | (next, .ok (.selected t)) => return (next, ← display t.render)
  | (next, .ok _) => return (next, .ok ())
  | (next, .error e) => return (next, .error (.engine e))

def perform (folder : String) (db : Database) : Command → m (Database × Except Failure Unit)
  | .blank | .close => return (db, .ok ())
  | .info => return (db, ← display db.render)
  | .save file => return (db, ← save db (fileIn folder file))
  | .load file => do
    let (next, result) ← load db (fileIn folder file)
    return (next, result.map fun _ => ())
  | .unknown line => return (db, .error (.engine (.badSyntax (.unknownCommand line))))
  | .statement sql => execute db sql

/-- A failure is reported and the session goes on, unless the report cannot be written. -/
def handle (folder : String) (db : Database) (line : String) :
    m (Database × Except FileFault Control) := do
  let command := Command.ofLine line
  let (next, result) ← perform folder db command
  match result with
  | .ok () => return (next, .ok (if command = .close then .close else .proceed))
  | .error failure =>
    return (next, (← Host.print s!"@{failure.message}\n").map fun _ => .proceed)

/-- A line that closes the session is the last, as is one that cannot be answered. -/
def handleAll (folder : String) (db : Database) :
    List String → m (Database × Except FileFault Control)
  | [] => return (db, .ok .proceed)
  | line :: rest => do
    match ← handle folder db line with
    | (next, .ok .proceed) => handleAll folder next rest
    | other => return other

/-- A line that is no text ends the session, but not before the lines in front are handled. -/
def handleBytes (folder : String) (db : Database) (lines : List (List UInt8)) :
    m (Database × Except FileFault Control) := do
  let (texts, ending) := untilFault decodeLine lines
  match ← handleAll folder db texts with
  | (next, .ok .proceed) => return (next, ending.map fun _ => .proceed)
  | other => return other

def finish : Database × Except FileFault Control → m (Database × Except FileFault Unit)
  | (db, .ok _) => return (db, ← Host.flush)
  | (db, .error fault) => return (db, .error fault)

def run (folder : String) (db : Database) (input : ByteArray) :
    m (Database × Except FileFault Unit) := do
  finish (← handleBytes folder db (lines 10 input.data.toList))

end Console

end Tabular
