import Tabular.Token

namespace Tabular

/-- A literal as it is written, before a column gives it a kind. -/
inductive Literal where
  | bare (word : String)
  | quoted (text : String)
  | null
deriving DecidableEq, Repr

namespace Literal

/-- Truth values are words like any other until a column of their kind reads them. -/
def ofToken? : Token → Option Literal
  | .number digits => some (.bare digits)
  | .ident word => some (.bare word)
  | .text content => some (.quoted content)
  | .keyword .true => some (.bare "true")
  | .keyword .false => some (.bare "false")
  | .keyword .null => some .null
  | _ => none

def describe : Literal → String
  | .bare word => s!"Bare({Text.quoted word})"
  | .quoted text => s!"Quoted({Text.quoted text})"
  | .null => "Null"

end Literal

end Tabular
