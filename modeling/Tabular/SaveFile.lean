import Tabular.Error

namespace Tabular.SaveFile
open Text

inductive Counted where
  | tables
  | columns
  | rows
deriving DecidableEq, Repr

def Counted.describe : Counted → String
  | .tables => "a table count"
  | .columns => "a column count"
  | .rows => "a row count"

inductive Cause where
  | lineBreak (text : String)
  | endOfFile
  | badCount (counted : Counted) (line : String)
  | noTableName
  | badColumn (line : String)
  | badKey (line : String)
  | valueCount (expected found : Nat)
  | badValue (found : Token)
  | refused (error : Error)
deriving DecidableEq, Repr

def Cause.message : Cause → String
  | .lineBreak text => s!"text {quoted text} contains a line break"
  | .endOfFile => "unexpected end of file"
  | .badCount counted line => s!"expected {counted.describe}, found {quoted line}"
  | .noTableName => "missing table name"
  | .badColumn line => s!"expected `<type> <name>`, found {quoted line}"
  | .badKey line => s!"invalid primary key line {quoted line}"
  | .valueCount expected found => s!"expected {expected} values, found {found}"
  | .badValue found => s!"unexpected {found.describe}"
  | .refused error => error.message

/-- Lines are numbered from one. -/
structure Fault where
  line : Nat
  cause : Cause
deriving DecidableEq, Repr

def Fault.message (fault : Fault) : String :=
  s!"save file line {fault.line}: {fault.cause.message}"

end Tabular.SaveFile
