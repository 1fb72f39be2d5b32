import Tabular.Number.Binary
import Tabular.Text.Words

namespace Tabular

inductive Kind where
  | int
  | float
  | double
  | bool
  | text
deriving DecidableEq, Repr

namespace Kind

def keyword : Kind → String
  | .int => "int"
  | .float => "float"
  | .double => "double"
  | .bool => "bool"
  | .text => "varchar"

/-- What a cell of a column of this kind holds, filled or not. -/
abbrev Cell : Kind → Type
  | .int => Int32
  | .float => Binary .single
  | .double => Binary .double
  | .bool => Bool
  | .text => String

/-- Reads a type word in any letter case; only `varchar` takes a width, which has no effect. -/
def ofText? (text : String) : Option Kind :=
  let word := (Text.trim text.toList).map Char.toLower
  if word = "int".toList then some .int
  else if word = "float".toList then some .float
  else if word = "double".toList then some .double
  else if word = "bool".toList then some .bool
  else if word = "varchar".toList then some .text
  else do
    let width ← "varchar(".toList.isPrefixOf? word
    let digits ← [')'].isSuffixOf? width
    if !digits.isEmpty && digits.all Char.isDigit then some .text else none

end Kind

end Tabular
