import Tabular.Proofs.Statement.Rounds

namespace Tabular

namespace Walk

def identifier : Walk String := do
  match ← current with
  | .ident name =>
    advance
    return name
  | _ => expecting .identifier

def literal : Walk Literal := do
  match Literal.ofToken? (← current) with
  | some l =>
    advance
    return l
  | none => expecting .value

def comparator : Walk Comparator := do
  match Comparator.ofToken? (← current) with
  | some c =>
    advance
    return c
  | none => expecting .operator

def names : Walk (List String) :=
  commas identifier

def nameList : Walk (List String) := do
  consume (.symbol .leftParen)
  let found ← names
  consume (.symbol .rightParen)
  return found

def width : Walk Nat := do
  match ← current with
  | .number digits =>
    match readNatural widthLimit digits.toList with
    | some n =>
      advance
      return n
    | none => fail (.badWidth digits)
  | _ => expecting .width

def columnSpec : Walk ColumnSpec := do
  let name ← identifier
  let typeWord ← identifier
  if ← eat (.symbol .leftParen) then
    let found ← width
    consume (.symbol .rightParen)
    return ⟨name, typeWord, some found⟩
  else
    return ⟨name, typeWord, none⟩

def keyClause : Walk (List String) := do
  consume (.keyword .key)
  let found ← nameList
  consume (.symbol .rightParen)
  return found

/-- One more round of the columns of a table: its key, which ends them, or another column. -/
def columnRound (columns : List ColumnSpec) :
    Walk (List ColumnSpec ⊕ List ColumnSpec × List String) := do
  if ← eat (.keyword .primary) then
    return .inr (columns, ← keyClause)
  else
    let columns := columns ++ [← columnSpec]
    match ← current with
    | .symbol .rightParen =>
      advance
      return .inr (columns, [])
    | .symbol .comma =>
      advance
      return .inl columns
    | _ => expecting .separator

def createTable : Walk Change := do
  consume (.keyword .create)
  consume (.keyword .table)
  let name ← identifier
  consume (.symbol .leftParen)
  let (specs, key) ← loop columnRound []
  if specs.isEmpty then
    fail (.noColumns name)
  else
    return .createTable name specs key

def valueGroup : Walk (List Literal) := do
  consume (.symbol .leftParen)
  let group ← commas literal
  consume (.symbol .rightParen)
  return group

/-- Of the tokens between two items of a list only a comma leads on to the next. -/
def comma (token : Token) : Option Unit :=
  if token = .symbol .comma then some () else none

def targets : Walk (Option (List String)) := do
  if ← eat (.symbol .leftParen) then
    let found ← names
    consume (.symbol .rightParen)
    return some found
  else
    return none

def insert : Walk Change := do
  consume (.keyword .insert)
  consume (.keyword .into)
  let table ← identifier
  let columns ← targets
  consume (.keyword .values)
  let groups ← chain (fun _ : Unit => valueGroup) comma ()
  return .insert table columns groups

def dropTable : Walk Change := do
  consume (.keyword .drop)
  consume (.keyword .table)
  return .dropTable (← identifier)

def predicate (alternative : Bool) : Walk Predicate := do
  let negated ← eat (.keyword .not)
  let column ← identifier
  let found ← comparator
  let operand ← literal
  return ⟨alternative, negated, column, found, operand⟩

def filter : Walk Filter := do
  if ← eat (.keyword .where) then
    return some (← chain predicate Grammar.connective false)
  else
    return none

def update : Walk Change := do
  consume (.keyword .update)
  let table ← identifier
  consume (.keyword .set)
  let column ← identifier
  consume (.symbol .equal)
  let value ← literal
  return .update table column value (← filter)

def delete : Walk Change := do
  consume (.keyword .delete)
  consume (.keyword .from)
  let table ← identifier
  return .delete table (← filter)

def qualifiedColumn : Walk QualifiedColumn := do
  let table ← identifier
  consume (.symbol .dot)
  return ⟨table, ← identifier⟩

def joinKind : Walk (Option JoinKind) := do
  match ← current with
  | .keyword .join => return some .inner
  | .keyword .inner =>
    advance
    return some .inner
  | .keyword .left =>
    advance
    return some .left
  | .keyword .right =>
    advance
    return some .right
  | _ => return none

def joinClause : Walk (Option JoinClause) := do
  match ← joinKind with
  | none => return none
  | some kind =>
    consume (.keyword .join)
    let table ← identifier
    consume (.keyword .on)
    let first ← qualifiedColumn
    consume (.symbol .equal)
    let second ← qualifiedColumn
    return some ⟨kind, table, first, second⟩

def projection : Walk Projection := do
  if ← eat (.symbol .star) then
    return .all
  else
    return .names (← names)

def query : Walk Query := do
  consume (.keyword .select)
  let found ← projection
  consume (.keyword .from)
  let table ← identifier
  let join ← joinClause
  return ⟨found, table, join, ← filter⟩

def statement : Walk Statement := do
  match ← current with
  | .keyword .create => return .change (← createTable)
  | .keyword .insert => return .change (← insert)
  | .keyword .drop => return .change (← dropTable)
  | .keyword .update => return .change (← update)
  | .keyword .delete => return .change (← delete)
  | .keyword .select => return .query (← query)
  | found => fail (.start found)

def complete : Walk Statement := do
  let found ← statement
  let _ ← eat (.symbol .semicolon)
  match ← current with
  | .stop => return found
  | token => fail (.rest token)

/-- A parser starts in front of all its tokens. -/
def parse (tokens : List Token) : Part (Except SyntaxFault Statement × Cursor) :=
  complete.run (.start tokens)

end Walk

end Tabular
