import Tabular.Statement.Grammar
import Tabular.Table.Relation

namespace Tabular

/-- The tables stand in the order of their creation. -/
structure Database where
  tables : List Table

inductive Outcome where
  | created (name : String)
  | inserted (count : Nat)
  | dropped (name : String)
  | updated (count : Nat)
  | deleted (count : Nat)
  | selected (table : Table)

def Outcome.render : Outcome → String
  | .created name => s!"table {name} created"
  | .inserted count => s!"{count} row(s) inserted"
  | .dropped name => s!"table {name} dropped"
  | .updated count => s!"{count} row(s) updated"
  | .deleted count => s!"{count} row(s) deleted"
  | .selected t => s!"{t.rowCount} row(s) selected"

namespace Database

def empty : Database := ⟨[]⟩

def find? (db : Database) (name : String) : Option Table :=
  db.tables.find? (·.name == name)

def table (db : Database) (name : String) : Except Error Table :=
  match db.find? name with
  | some t => .ok t
  | none => .error (.missing (.table name))

def names (db : Database) : List String :=
  db.tables.map Table.name

def add (db : Database) (t : Table) : Except Error Database :=
  if (db.find? t.name).isSome then .error (.tableExists t.name)
  else .ok ⟨db.tables ++ [t]⟩

/-- All of the tables are added, or none is. -/
def addAll (db : Database) (tables : List Table) : Except Error Database :=
  tables.foldlM add db

/-- The table that leaves, and the database without it. -/
def drop (db : Database) (name : String) : Except Error (Table × Database) := do
  let t ← db.table name
  return (t, ⟨db.tables.eraseP (·.name == name)⟩)

/-- The new table takes the place of the first one under the name. -/
def put (db : Database) (name : String) (t : Table) : Database :=
  ⟨go db.tables⟩
where
  go : List Table → List Table
    | [] => []
    | head :: rest => if head.name == name then t :: rest else head :: go rest

end Database

end Tabular
