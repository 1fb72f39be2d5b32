import Tabular.SaveFile
import Tabular.Statement.Grammar
import Tabular.Table

namespace Tabular.SaveFile
open Text

/-- The lines still to be read, and how many have been. -/
structure Position where
  line : Nat
  rest : List (List Char)

abbrev LineReader := StateT Position (Except Fault)

def fail (cause : Cause) : LineReader α := do
  throw ⟨(← get).line, cause⟩

/-- White space at the end of a line does not count. -/
def nextLine : LineReader (List Char) := fun position =>
  match position.rest with
  | [] => .error ⟨position.line + 1, .endOfFile⟩
  | line :: rest => .ok (trimEnd line, ⟨position.line + 1, rest⟩)

/-- Any failure belongs to the line read last. -/
def lift (result : Except Error α) : LineReader α :=
  match result with
  | .ok a => pure a
  | .error e => fail (.refused e)

def times : Nat → LineReader α → LineReader (List α)
  | 0, _ => pure []
  | n + 1, reader => do
    let a ← reader
    return a :: (← times n reader)

def count (counted : Counted) : LineReader Nat := do
  let line ← nextLine
  match readNatural indexLimit (trim line) with
  | some n => return n
  | none => fail (.badCount counted (String.ofList line))

def tableName : LineReader String := do
  match trim (← nextLine) with
  | [] => fail .noTableName
  | name => return String.ofList name

def column : LineReader Field := do
  let line ← nextLine
  match words line with
  | [typeWord, name] =>
    let kind ← lift (Kind.ofText (String.ofList typeWord))
    return ⟨String.ofList name, kind⟩
  | _ => fail (.badColumn (String.ofList line))

/-- The size of the key comes before its places. -/
def key : LineReader (List Nat) := do
  let line ← nextLine
  match (words line).mapM (readNatural indexLimit) with
  | some (size :: indices) =>
    if size = indices.length then return indices else fail (.badKey (String.ofList line))
  | _ => fail (.badKey (String.ofList line))

def value (kind : Kind) (token : Token) : LineReader Value :=
  match Literal.ofToken? token with
  | some found => lift (Value.ofLiteral kind found)
  | none => fail (.badValue token)

def row (schema : Schema) : LineReader Row := do
  let line ← nextLine
  let tokens ← lift ((Token.scan (String.ofList line)).mapError .badSyntax)
  if tokens.length ≠ schema.length then
    fail (.valueCount schema.length tokens.length)
  else
    (schema.zip tokens).mapM fun (field, token) => value field.kind token

def rows : Nat → Table → LineReader Table
  | 0, t => pure t
  | n + 1, t => do
    let found ← row t.schema
    rows n (← lift (t.insert found))

def table : LineReader Table := do
  let name ← tableName
  let schema ← times (← count .columns) column
  let keyed ← lift ((Table.ofSchema name schema).setKey (← key))
  rows (← count .rows) keyed

/-- Lines behind the last table are not read. -/
def tables : LineReader (List Table) := do
  times (← count .tables) table

def decode (text : String) : Except Fault (List Table) :=
  (tables.run ⟨0, lines '\n' text.toList⟩).map Prod.fst

end Tabular.SaveFile
