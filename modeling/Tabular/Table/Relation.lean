import Tabular.Table

namespace Tabular.Table

/-- A new table has no key, so its rows need not differ. -/
def ofRows (name : String) (schema : Schema) (rows : List Row) : Except Error Table :=
  (ofSchema name schema).insertAll rows

def find (t : Table) (condition : Condition) : Except Error Table :=
  ofRows t.name t.schema (t.rows.filter condition.accepts)

def field (t : Table) (index : Nat) : Except Error Field :=
  match t.schema[index]? with
  | some found => .ok found
  | none => .error (t.noColumn index)

/-- Columns may be left out, reordered and repeated. -/
def select (t : Table) (indices : List Nat) : Except Error Table := do
  let fields ← indices.mapM t.field
  ofRows t.name fields (t.rows.map fun row => indices.map row.value)

/-- The rows of the right table that go with a row of the left one. -/
def matching (right : Table) (left : Row) (leftColumn rightColumn : Nat) : List Row :=
  right.rows.filter fun row => (row.value rightColumn).same (left.value leftColumn)

/-- A row of the left table that nothing goes with is dropped or, on request, filled with nulls. -/
def join (left right : Table) (leftColumn rightColumn : Nat) (keepUnmatched : Bool) :
    Except Error Table := do
  let leftField ← left.field leftColumn
  let rightField ← right.field rightColumn
  if leftField.kind ≠ rightField.kind then
    throw (.kindMismatch s!"{right.name}.{rightField.name}" leftField.kind rightField.kind)
  let schema := left.schema ++ right.schema
  ofRows left.name schema (left.rows.flatMap fun row =>
    match right.matching row leftColumn rightColumn with
    | [] => if keepUnmatched then [row.align schema.length] else []
    | found => found.map (row ++ ·))

def innerJoin (left right : Table) (leftColumn rightColumn : Nat) : Except Error Table :=
  left.join right leftColumn rightColumn false

def leftJoin (left right : Table) (leftColumn rightColumn : Nat) : Except Error Table :=
  left.join right leftColumn rightColumn true

/-- The right table comes first, in its columns as in its rows. -/
def rightJoin (left right : Table) (leftColumn rightColumn : Nat) : Except Error Table :=
  right.leftJoin left rightColumn leftColumn

end Tabular.Table
