import Tabular.Schema

namespace Tabular

/-- What stands in a cell that has never been filled. -/
def Kind.blank : (kind : Kind) → kind.Cell
  | .int => 0
  | .float => .finite false ⟨0, by decide⟩
  | .double => .finite false ⟨0, by decide⟩
  | .bool => false
  | .text => ""

/-- A mark beside each cell says whether it is null; what the cell holds then is never seen. -/
structure Column where
  name : String
  kind : Kind
  cells : Array kind.Cell
  nulls : Array Bool

namespace Column

def ofNulls (name : String) (kind : Kind) (count : Nat) : Column :=
  ⟨name, kind, Array.replicate count kind.blank, Array.replicate count true⟩

def empty (name : String) (kind : Kind) : Column :=
  ofNulls name kind 0

def size (column : Column) : Nat :=
  column.nulls.size

def get? (column : Column) (index : Nat) : Option Value :=
  match column.nulls[index]?, column.cells[index]? with
  | some true, some _ => some .null
  | some false, some content => some (.ofCell column.kind content)
  | _, _ => none

def values (column : Column) : List Value :=
  (List.range column.size).filterMap column.get?

/-- The cell that a value fills, or none for null; another kind or a float that is not finite has
no place in the column. -/
def accept (column : Column) (v : Value) : Except Error (Option column.kind.Cell) :=
  match v.cell? column.kind, v.kind? with
  | some content, _ =>
    if v.isFinite then .ok (some content) else .error (.unreadable v.render column.kind)
  | none, some found => .error (.kindMismatch column.name column.kind found)
  | none, none => .ok none

def push (column : Column) (v : Value) : Except Error Column := do
  match ← column.accept v with
  | some content =>
    return { column with cells := column.cells.push content, nulls := column.nulls.push false }
  | none =>
    return { column with
      cells := column.cells.push column.kind.blank, nulls := column.nulls.push true }

/-- A cell that becomes null keeps its content unseen. -/
def set (column : Column) (index : Nat) (v : Value) : Except Error Column :=
  if index < column.size then do
    match ← column.accept v with
    | some content =>
      return { column with
        cells := column.cells.setIfInBounds index content
        nulls := column.nulls.setIfInBounds index false }
    | none => return { column with nulls := column.nulls.setIfInBounds index true }
  else
    .error (.missing (.cell index))

/-- Past the end there is nothing to remove. -/
def remove (column : Column) (index : Nat) : Column :=
  { column with
    cells := column.cells.eraseIdxIfInBounds index
    nulls := column.nulls.eraseIdxIfInBounds index }

def clear (column : Column) : Column :=
  { column with cells := #[], nulls := #[] }

end Column

end Tabular
