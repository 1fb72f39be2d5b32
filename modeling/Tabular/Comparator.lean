namespace Tabular

inductive Comparator where
  | eq
  | ne
  | gt
  | ge
  | lt
  | le
deriving DecidableEq, Repr

namespace Comparator

def all : List Comparator := [.eq, .ne, .gt, .ge, .lt, .le]

def symbol : Comparator → String
  | .eq => "="
  | .ne => "!="
  | .gt => ">"
  | .ge => ">="
  | .lt => "<"
  | .le => "<="

def ofSymbol? (text : String) : Option Comparator :=
  all.find? (·.symbol == text)

end Comparator

end Tabular
