import Tabular.Value

namespace Tabular

/-- A row has one value for each column. -/
abbrev Row := List Value

namespace Row

def nulls (width : Nat) : Row :=
  List.replicate width .null

def replace? (row : Row) (index : Nat) (v : Value) : Option Row :=
  if index < row.length then some (row.set index v) else none

/-- Nulls fill a row up to the width; a wider row stays as it is. -/
def align (row : Row) (width : Nat) : Row :=
  row ++ nulls (width - row.length)

/-- A missing value is null. -/
def value (row : Row) (index : Nat) : Value :=
  row.getD index .null

def agree (key : List Nat) (a b : Row) : Bool :=
  key.all fun column => (a.value column).same (b.value column)

def fieldWidth : Nat := 15

def render (row : Row) : String :=
  String.join (row.map fun v => Text.pad .right fieldWidth v.render ++ " ")

end Row

end Tabular
