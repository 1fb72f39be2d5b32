import Tabular.Database

namespace Tabular.Database

/-- The two sides of the clause may stand in either order. -/
def sides (clause : JoinClause) (left right : String) :
    Except Error (QualifiedColumn × QualifiedColumn) :=
  if clause.first.table = left ∧ clause.second.table = right then
    .ok (clause.first, clause.second)
  else if clause.second.table = left ∧ clause.first.table = right then
    .ok (clause.second, clause.first)
  else
    .error (.badSyntax (.unrelated clause.first clause.second left right))

def join (db : Database) (left : Table) (clause : JoinClause) : Except Error Table := do
  let right ← db.table clause.table
  let (leftSide, rightSide) ← sides clause left.name right.name
  let leftColumn ← left.schema.resolve leftSide.column
  let rightColumn ← right.schema.resolve rightSide.column
  match clause.kind with
  | .inner => left.innerJoin right leftColumn rightColumn
  | .left => left.leftJoin right leftColumn rightColumn
  | .right => left.rightJoin right leftColumn rightColumn

/-- The base table, joined if the query asks for it. -/
def source (db : Database) (query : Query) : Except Error Table := do
  let base ← db.table query.table
  match query.join with
  | none => return base
  | some clause => db.join base clause

def project (schema : Schema) : Projection → Except Error (List Nat)
  | .all => .ok (List.range schema.length)
  | .names columns => columns.mapM fun name => return (← schema.resolve name).val

def filtered (t : Table) : Filter → Except Error Table
  | none => .ok t
  | some predicates => do t.find (← Condition.ofPredicates t.schema predicates)

/-- The columns are resolved before the condition, though they are cut out after it. -/
def answer (db : Database) (query : Query) : Except Error Table := do
  let working ← db.source query
  let indices ← project working.schema query.projection
  (← filtered working query.filter).select indices

/-- The answer to a statement that has to be a query. -/
def query (db : Database) (sql : String) : Except Error Table :=
  match Statement.read sql with
  | .error fault => .error (.badSyntax fault)
  | .ok (.query q) => db.answer q
  | .ok (.change c) => .error (.badSyntax (.notQuery c))

end Tabular.Database
