namespace Tabular.Text

def listed (items : List String) : String :=
  "[" ++ ", ".intercalate items ++ "]"

def optional : Option String → String
  | none => "None"
  | some item => s!"Some({item})"

/-- Named fields, in the order of their declaration. -/
def record (name : String) (fields : List (String × String)) : String :=
  name ++ " \x7b " ++ ", ".intercalate (fields.map fun (field, item) => s!"{field}: {item}") ++
    " \x7d"

end Tabular.Text
