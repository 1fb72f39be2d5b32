import Tabular.Error

namespace Tabular

structure Field where
  name : String
  kind : Kind
deriving DecidableEq, Repr

/-- Names may repeat; the first of them is the one that is found. -/
abbrev Schema := List Field

def Schema.resolve (schema : Schema) (name : String) : Except Error (Fin schema.length) :=
  match schema.findFinIdx? (·.name == name) with
  | some index => .ok index
  | none => .error (.missing (.column name))

end Tabular
