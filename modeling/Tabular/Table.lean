import Tabular.Column
import Tabular.Condition

namespace Tabular

/-- The columns are of one length. The key lists the places of its columns in ascending order, and
no two rows may share it; an empty one forbids nothing. -/
structure Table where
  name : String
  columns : List Column
  key : List Nat
  rowCount : Nat

namespace Table

def empty (name : String) : Table :=
  ⟨name, [], [], 0⟩

def schema (t : Table) : Schema :=
  t.columns.map fun column => ⟨column.name, column.kind⟩

def width (t : Table) : Nat :=
  t.columns.length

/-- The rows already there hold null in the new column. -/
def addColumn (t : Table) (field : Field) : Table :=
  { t with columns := t.columns ++ [.ofNulls field.name field.kind t.rowCount] }

def declareColumn (t : Table) (typeText name : String) : Except Error Table := do
  return t.addColumn ⟨name, ← Kind.ofText typeText⟩

def ofSchema (name : String) (schema : Schema) : Table :=
  schema.foldl addColumn (empty name)

def noColumn (t : Table) (index : Nat) : Error :=
  .missing (.columnAt index t.name)

def insertIndex (index : Nat) : List Nat → List Nat
  | [] => [index]
  | head :: rest =>
    if index < head then index :: head :: rest
    else if index = head then head :: rest
    else head :: insertIndex index rest

/-- The rows already there are not looked at. -/
def setKey (t : Table) (indices : List Nat) : Except Error Table :=
  let key := indices.foldr insertIndex []
  match key.find? (t.width ≤ ·) with
  | some bad => .error (t.noColumn bad)
  | none => .ok { t with key := key }

def setKeyByName (t : Table) (names : List String) : Except Error Table := do
  let indices ← names.mapM fun name => return (← t.schema.resolve name).val
  t.setKey indices

def rename (t : Table) (name : String) : Table :=
  { t with name := name }

def row? (t : Table) (index : Nat) : Option Row :=
  if index < t.rowCount then t.columns.mapM (·.get? index) else none

def rows (t : Table) : List Row :=
  (List.range t.rowCount).filterMap t.row?

/-- Whether a row, other than the one to skip, agrees with the candidate on the whole key. -/
def conflicts (t : Table) (candidate : Row) (skip : Option Nat) : Bool :=
  !t.key.isEmpty && (List.range t.rowCount).any fun index =>
    skip != some index && (t.row? index).any (Row.agree t.key candidate)

def keyConflict (t : Table) (candidate : Row) : Error :=
  .duplicateKey t.name (t.key.filterMap fun index =>
    t.columns[index]?.map fun column => (column.name, candidate.value index))

/-- Nulls fill a short row. -/
def insert (t : Table) (row : Row) : Except Error Table := do
  if t.width < row.length then
    throw (.columnCount t.width row.length)
  let filled := row.align t.width
  let columns ← (t.columns.zip filled).mapM fun (column, v) => column.push v
  if t.conflicts filled none then
    throw (t.keyConflict filled)
  return { t with columns := columns, rowCount := t.rowCount + 1 }

def insertAll (t : Table) (rows : List Row) : Except Error Table :=
  rows.foldlM insert t

/-- Only a column of the key can bring a row into conflict. -/
def update (t : Table) (row column : Nat) (v : Value) : Except Error Table := do
  let some old := t.row? row | throw (.missing (.rowAt row t.name))
  let some target := t.columns[column]? | throw (t.noColumn column)
  let changed ← target.set row v
  let new := old.set column v
  if t.key.contains column && t.conflicts new (some row) then
    throw (t.keyConflict new)
  return { t with columns := t.columns.set column changed }

/-- Past the end there is nothing to delete. -/
def delete (t : Table) (row : Nat) : Table :=
  if row < t.rowCount then
    { t with columns := t.columns.map (·.remove row), rowCount := t.rowCount - 1 }
  else t

def clear (t : Table) : Table :=
  { t with columns := t.columns.map Column.clear, rowCount := 0 }

def render (t : Table) : String :=
  s!"Table: {t.name}, {t.width} cols {t.rowCount} rows\n" ++
    String.join (t.columns.map fun column =>
      Text.pad .right Row.fieldWidth column.name ++ "|") ++ "\n" ++
    String.join (t.rows.map fun row => row.render ++ "\n")

end Table

end Tabular
