import Tabular.Database.Query

namespace Tabular

abbrev Write := Table → Except Error Table

/-- The writes come one after another; the first that is refused ends them, and those before it
stay. -/
def Table.perform (t : Table) : List Write → Table × Option Error
  | [] => (t, none)
  | write :: rest =>
    match write t with
    | .ok written => written.perform rest
    | .error e => (t, some e)

/-- A column without a literal holds null; of two literals for one column the later one stays. -/
def Schema.fill (schema : Schema) (targets : List (Fin schema.length)) (group : List Literal) :
    Except Error Row :=
  (targets.zip group).foldlM (fun row (column, literal) => do
    return row.set column.val (← Value.ofLiteral (schema.get column).kind literal))
    (Row.nulls schema.length)

/-- The writes that a statement has in mind for a table, and its outcome if none is refused. -/
structure Plan where
  writes : List Write
  outcome : Outcome

namespace Plan

/-- Every group is counted before anything is written. -/
def insert (t : Table) (columns : Option (List String)) (groups : List (List Literal)) :
    Except Error Plan := do
  let targets ← match columns with
    | none => pure (List.finRange t.schema.length)
    | some names => names.mapM t.schema.resolve
  match groups.find? (·.length != targets.length) with
  | some group => throw (.columnCount targets.length group.length)
  | none =>
    let write (group : List Literal) : Write := fun current => do
      current.insert (← t.schema.fill targets group)
    return ⟨groups.map write, .inserted groups.length⟩

/-- The places of the rows that a filter lets through. -/
def matching (t : Table) (filter : Filter) : Except Error (List Nat) :=
  match filter with
  | none => .ok (List.range t.rowCount)
  | some predicates => do
    let condition ← Condition.ofPredicates t.schema predicates
    return (List.range t.rowCount).filter fun index => (t.row? index).any condition.accepts

/-- The rows to change are settled before the first write. -/
def update (t : Table) (column : String) (literal : Literal) (filter : Filter) :
    Except Error Plan := do
  let target ← t.schema.resolve column
  let v ← Value.ofLiteral (t.schema.get target).kind literal
  let rows ← matching t filter
  return ⟨rows.map fun row current => current.update row target v, .updated rows.length⟩

/-- The last row goes first, so that the places of the others still hold. -/
def delete (t : Table) (filter : Filter) : Except Error Plan := do
  match filter with
  | none => return ⟨[fun current => .ok current.clear], .deleted t.rowCount⟩
  | some _ =>
    let rows ← matching t filter
    return ⟨rows.reverse.map fun row current => .ok (current.delete row), .deleted rows.length⟩

end Plan

namespace Database

def create (db : Database) (name : String) (columns : List ColumnSpec) (key : List String) :
    Except Error Database := do
  if (db.find? name).isSome then
    throw (.tableExists name)
  let declared ← columns.foldlM (fun t column =>
    let typeText := match column.width with
      | some width => s!"{column.typeWord}({width})"
      | none => column.typeWord
    t.declareColumn typeText column.name) (Table.empty name)
  db.add (← declared.setKeyByName key)

def carryOut (db : Database) (name : String) (plan : Table → Except Error Plan) :
    Database × Except Error Outcome :=
  match db.table name with
  | .error e => (db, .error e)
  | .ok old =>
    match plan old with
    | .error e => (db, .error e)
    | .ok found =>
      match old.perform found.writes with
      | (new, none) => (db.put name new, .ok found.outcome)
      | (new, some e) => (db.put name new, .error e)

def apply (db : Database) : Change → Database × Except Error Outcome
  | .createTable name columns key =>
    match db.create name columns key with
    | .ok next => (next, .ok (.created name))
    | .error e => (db, .error e)
  | .dropTable name =>
    match db.drop name with
    | .ok (_, next) => (next, .ok (.dropped name))
    | .error e => (db, .error e)
  | .insert name columns groups => db.carryOut name (Plan.insert · columns groups)
  | .update name column literal filter => db.carryOut name (Plan.update · column literal filter)
  | .delete name filter => db.carryOut name (Plan.delete · filter)

/-- A query leaves the database as it is; what a failing change has written stays. -/
def execute (db : Database) (sql : String) : Database × Except Error Outcome :=
  match Statement.read sql with
  | .error fault => (db, .error (.badSyntax fault))
  | .ok (.query q) => (db, (db.answer q).map .selected)
  | .ok (.change c) => db.apply c

end Database

end Tabular
