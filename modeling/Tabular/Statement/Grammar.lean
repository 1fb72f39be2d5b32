import Tabular.Token.Reader
import Tabular.Token.Scan

namespace Tabular

def Comparator.ofToken? : Token → Option Comparator
  | .symbol .equal => some .eq
  | .symbol .notEqual => some .ne
  | .symbol .greater => some .gt
  | .symbol .greaterEqual => some .ge
  | .symbol .lower => some .lt
  | .symbol .lowerEqual => some .le
  | _ => none

namespace Grammar
open Reader

def identifier : Reader String := do
  match ← peek with
  | .ident name =>
    skip
    return name
  | _ => failExpecting .identifier

def literal : Reader Literal := do
  match Literal.ofToken? (← peek) with
  | some l =>
    skip
    return l
  | none => failExpecting .value

def comparator : Reader Comparator := do
  match Comparator.ofToken? (← peek) with
  | some c =>
    skip
    return c
  | none => failExpecting .operator

def names : Reader (List String) :=
  separated identifier

/-- A list of names between parentheses. -/
def nameList : Reader (List String) := do
  expect (.symbol .leftParen)
  let found ← names
  expect (.symbol .rightParen)
  return found

def width : Reader Nat := do
  match ← peek with
  | .number digits =>
    match readNatural widthLimit digits.toList with
    | some n =>
      skip
      return n
    | none => fail (.badWidth digits)
  | _ => failExpecting .width

def columnSpec : Reader ColumnSpec := do
  let name ← identifier
  let typeWord ← identifier
  if ← accept (.symbol .leftParen) then
    let found ← width
    expect (.symbol .rightParen)
    return ⟨name, typeWord, some found⟩
  else
    return ⟨name, typeWord, none⟩

/-- The key clause comes last, so it ends the list of columns too. -/
def keyClause : Reader (List String) := do
  expect (.keyword .key)
  let found ← nameList
  expect (.symbol .rightParen)
  return found

def runColumns (tokens : List Token) :
    Except SyntaxFault ((List ColumnSpec × List String) × List Token) :=
  if tokens.head? = some (.keyword .primary) then
    (keyClause.run tokens.tail).map fun (key, rest) => (([], key), rest)
  else
    match _h : columnSpec.run tokens with
    | .error fault => .error fault
    | .ok (column, .symbol .rightParen :: rest) => .ok (([column], []), rest)
    | .ok (column, .symbol .comma :: rest) =>
      (runColumns rest).map fun ((columns, key), rest) => ((column :: columns, key), rest)
    | .ok (_, rest) => .error (.expected .separator (rest.headD .stop))
termination_by tokens.length
decreasing_by
  have := (columnSpec.leaves _h).length_le
  simp only [List.length_cons] at this
  omega

theorem runColumns_leaves {tokens rest : List Token} {found : List ColumnSpec × List String}
    (h : runColumns tokens = .ok (found, rest)) : rest <:+ tokens := by
  fun_induction runColumns tokens generalizing found rest with
  | case1 tokens _ =>
    cases hk : keyClause.run tokens.tail with
    | error fault => simp [hk, Except.map] at h
    | ok result =>
      obtain ⟨key, last⟩ := result
      simp only [hk, Except.map, Except.ok.injEq, Prod.mk.injEq] at h
      obtain ⟨-, rfl⟩ := h
      exact (keyClause.leaves hk).trans (List.tail_suffix tokens)
  | case2 => cases h
  | case3 tokens _ column left hc =>
    cases h
    exact (List.suffix_cons _ _).trans (columnSpec.leaves hc)
  | case4 tokens _ column left hc ih =>
    cases hn : runColumns left with
    | error fault => simp [hn, Except.map] at h
    | ok result =>
      obtain ⟨⟨columns, key⟩, last⟩ := result
      simp only [hn, Except.map, Except.ok.injEq, Prod.mk.injEq] at h
      obtain ⟨-, rfl⟩ := h
      exact (ih hn).trans ((List.suffix_cons _ left).trans (columnSpec.leaves hc))
  | case5 => cases h

/-- The columns of a table and the names of its key, up to the last parenthesis. -/
def columns : Reader (List ColumnSpec × List String) :=
  ⟨runColumns, runColumns_leaves⟩

def createTable : Reader Change := do
  expect (.keyword .create)
  expect (.keyword .table)
  let name ← identifier
  expect (.symbol .leftParen)
  let (specs, key) ← columns
  if specs.isEmpty then
    fail (.noColumns name)
  else
    return .createTable name specs key

def valueGroup : Reader (List Literal) := do
  expect (.symbol .leftParen)
  let group ← separated literal
  expect (.symbol .rightParen)
  return group

def insert : Reader Change := do
  expect (.keyword .insert)
  expect (.keyword .into)
  let table ← identifier
  let targets ← if (← peek) = .symbol .leftParen then some <$> nameList else pure none
  expect (.keyword .values)
  let groups ← separated valueGroup
  return .insert table targets groups

def dropTable : Reader Change := do
  expect (.keyword .drop)
  expect (.keyword .table)
  return .dropTable (← identifier)

def predicate (alternative : Bool) : Reader Predicate := do
  let negated ← accept (.keyword .not)
  let column ← identifier
  let found ← comparator
  let operand ← literal
  return ⟨alternative, negated, column, found, operand⟩

def connective : Token → Option Bool
  | .keyword .or => some true
  | .keyword .and => some false
  | _ => none

def filter : Reader Filter := do
  if ← accept (.keyword .where) then
    some <$> chain predicate connective false
  else
    return none

def update : Reader Change := do
  expect (.keyword .update)
  let table ← identifier
  expect (.keyword .set)
  let column ← identifier
  expect (.symbol .equal)
  let value ← literal
  return .update table column value (← filter)

def delete : Reader Change := do
  expect (.keyword .delete)
  expect (.keyword .from)
  let table ← identifier
  return .delete table (← filter)

def qualifiedColumn : Reader QualifiedColumn := do
  let table ← identifier
  expect (.symbol .dot)
  return ⟨table, ← identifier⟩

def joinKind : Reader (Option JoinKind) := do
  match ← peek with
  | .keyword .join => return some .inner
  | .keyword .inner =>
    skip
    return some .inner
  | .keyword .left =>
    skip
    return some .left
  | .keyword .right =>
    skip
    return some .right
  | _ => return none

def joinClause : Reader (Option JoinClause) := do
  match ← joinKind with
  | none => return none
  | some kind =>
    expect (.keyword .join)
    let table ← identifier
    expect (.keyword .on)
    let first ← qualifiedColumn
    expect (.symbol .equal)
    let second ← qualifiedColumn
    return some ⟨kind, table, first, second⟩

def projection : Reader Projection := do
  if ← accept (.symbol .star) then
    return .all
  else
    return .names (← names)

def query : Reader Query := do
  expect (.keyword .select)
  let found ← projection
  expect (.keyword .from)
  let table ← identifier
  let join ← joinClause
  return ⟨found, table, join, ← filter⟩

def statement : Reader Statement := do
  match ← peek with
  | .keyword .create => .change <$> createTable
  | .keyword .insert => .change <$> insert
  | .keyword .drop => .change <$> dropTable
  | .keyword .update => .change <$> update
  | .keyword .delete => .change <$> delete
  | .keyword .select => .query <$> query
  | found => fail (.start found)

/-- A statement, a semicolon if there is one, and nothing else. -/
def complete : Reader Statement := do
  let found ← statement
  let _ ← accept (.symbol .semicolon)
  match ← peek with
  | .stop => return found
  | token => fail (.rest token)

end Grammar

namespace Statement

/-- Nothing behind the first end mark is read. -/
def ofTokens (tokens : List Token) : Except SyntaxFault Statement :=
  (Grammar.complete.run (tokens.takeWhile (· ≠ .stop))).map Prod.fst

def read (sql : String) : Except SyntaxFault Statement := do
  ofTokens (← Token.scanStatement sql)

end Statement

end Tabular
