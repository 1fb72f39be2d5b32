import Tabular.Error

namespace Tabular

def Kind.ofText (text : String) : Except Error Kind :=
  match Kind.ofText? text with
  | some kind => .ok kind
  | none => .error (.unknownKind text)

def Comparator.ofSymbol (text : String) : Except Error Comparator :=
  match Comparator.ofSymbol? text with
  | some comparator => .ok comparator
  | none => .error (.badSyntax (.unknownComparator text))

namespace Value

def ofWord (kind : Kind) (word : String) : Except Error Value :=
  match read? kind word with
  | some v => .ok v
  | none => .error (.unreadable word kind)

/-- Null fits every kind, and a quoted text fits text alone. -/
def ofLiteral (kind : Kind) : Literal → Except Error Value
  | .null => .ok .null
  | .bare word => ofWord kind word
  | .quoted content =>
    if kind = .text then .ok (.text content) else .error (.unreadable s!"'{content}'" kind)

end Value

end Tabular
