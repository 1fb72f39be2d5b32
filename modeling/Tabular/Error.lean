import Tabular.Statement.Describe
import Tabular.Token
import Tabular.Value

namespace Tabular
open Text

/-- What was looked for and is not there. -/
inductive Missing where
  | table (name : String)
  | column (name : String)
  | columnAt (index : Nat) (owner : String)
  | rowAt (index : Nat) (owner : String)
  | cell (index : Nat)
deriving DecidableEq, Repr

def Missing.describe : Missing → String
  | .table name => s!"table {quoted name}"
  | .column name => s!"column {quoted name}"
  | .columnAt index owner => s!"column #{index} in table {quoted owner}"
  | .rowAt index owner => s!"row {index} in table {quoted owner}"
  | .cell index => s!"row {index}"

/-- What a statement's grammar asks for at a place where no single token will do. -/
inductive Expectation where
  | token (t : Token)
  | identifier
  | value
  | operator
  | width
  | separator
deriving DecidableEq, Repr

def Expectation.describe : Expectation → String
  | .token t => t.describe
  | .identifier => "identifier"
  | .value => "a value"
  | .operator => "an operator"
  | .width => "a width"
  | .separator => "',' or ')'"

inductive SyntaxFault where
  | loneBang
  | strayCharacter (c : Char)
  | secondDot
  | letterAfterNumber (c : Char) (number : String)
  | openText
  | start (found : Token)
  | rest (found : Token)
  | expected (expectation : Expectation) (found : Token)
  | badWidth (digits : String)
  | noColumns (table : String)
  | unknownComparator (text : String)
  | notQuery (change : Change)
  | unrelated (first second : QualifiedColumn) (left right : String)
  | unknownCommand (line : String)
deriving DecidableEq, Repr

def SyntaxFault.message : SyntaxFault → String
  | .loneBang => "expected '=' after '!'"
  | .strayCharacter c => s!"character {quotedChar c} is not supported"
  | .secondDot => "multiple dots are not allowed in a number"
  | .letterAfterNumber c number => s!"unexpected {quotedChar c} after number {number}"
  | .openText => "unterminated string"
  | .start found => s!"unexpected token: {found.describe}"
  | .rest found => s!"unexpected token after statement: {found.describe}"
  | .expected expectation found => s!"expected {expectation.describe}, found {found.describe}"
  | .badWidth digits => s!"invalid width {quoted digits}"
  | .noColumns table => s!"table {quoted table} has no columns"
  | .unknownComparator text => s!"unknown operator {quoted text}"
  | .notQuery change => s!"{change.describe} is not a queryable statement"
  | .unrelated first second left right =>
    s!"ON {first.table}.{first.column} = {second.table}.{second.column} " ++
      s!"does not compare {left} with {right}"
  | .unknownCommand line => s!"unknown command {quoted line}"

inductive Error where
  | unreadable (word : String) (kind : Kind)
  | unknownKind (text : String)
  | kindMismatch (column : String) (expected found : Kind)
  | duplicateKey (table : String) (key : List (String × Value))
  | missing (what : Missing)
  | tableExists (name : String)
  | columnCount (expected found : Nat)
  | badSyntax (fault : SyntaxFault)
deriving DecidableEq, Repr

def Error.message : Error → String
  | .unreadable word kind => s!"cannot read {quoted word} as {kind.keyword}"
  | .unknownKind text => s!"wrong type name: {text}"
  | .kindMismatch column expected found =>
    s!"type mismatch on column {quoted column}: " ++
      s!"expected {expected.keyword}, found {found.keyword}"
  | .duplicateKey table key =>
    let parts := ", ".intercalate (key.map fun (name, value) => s!"{name}={value.render}")
    s!"primary key violation: table {quoted table} already has a row with ({parts})"
  | .missing what => s!"{what.describe} not found"
  | .tableExists name => s!"table {quoted name} already exists"
  | .columnCount expected found =>
    s!"column count doesn't match value count: expected {expected}, found {found}"
  | .badSyntax fault => s!"wrong syntax: {fault.message}"

end Tabular
