import Tabular.SaveFile
import Tabular.Table
import Tabular.Token.Scan

namespace Tabular.SaveFile

/-- A value as a literal that reads back as itself. -/
def literal : Value → String
  | .text content => Token.quote content
  | v => v.render

def breaksLine (text : String) : Bool :=
  text.toList.any fun c => c = '\n' ∨ c = '\r'

/-- The first text that would not stay on its line. -/
def brokenText (row : Row) : Option String :=
  row.findSome? fun
    | .text content => if breaksLine content then some content else none
    | _ => none

def encodeRow (line : Nat) (row : Row) : Except Fault String :=
  match brokenText row with
  | some content => .error ⟨line, .lineBreak content⟩
  | none => .ok (" ".intercalate (row.map literal))

/-- The first of the rows stands on the given line. -/
def encodeRows (line : Nat) : List Row → Except Fault (List String)
  | [] => .ok []
  | row :: rest => do
    let text ← encodeRow line row
    return text :: (← encodeRows (line + 1) rest)

/-- The lines before a table's rows. -/
def header (t : Table) : List String :=
  [t.name, toString t.width] ++
    t.columns.map (fun column => s!"{column.kind.keyword} {column.name}") ++
    [" ".intercalate (toString t.key.length :: t.key.map toString), toString t.rowCount]

/-- Each table begins on the line where the one before it ends. -/
def encodeTables (line : Nat) : List Table → Except Fault (List String)
  | [] => .ok []
  | t :: rest => do
    let first := line + t.width + 4
    let rows ← encodeRows first t.rows
    return header t ++ rows ++ (← encodeTables (first + t.rowCount) rest)

/-- How many tables there are, then for each its name, its columns, the places of its key and its
rows, line by line. -/
def encode (tables : List Table) : Except Fault String := do
  let lines ← encodeTables 2 tables
  return String.join ((toString tables.length :: lines).map (· ++ "\n"))

end Tabular.SaveFile
