namespace Tabular.Text

inductive Alignment where
  | left
  | centre
  | right
deriving DecidableEq

/-- Widths count characters; of an odd number of spaces a centred text has the extra one behind. -/
def pad (alignment : Alignment) (width : Nat) (text : String) : String :=
  let missing := width - text.length
  let before := match alignment with
    | .left => 0
    | .centre => missing / 2
    | .right => missing
  String.ofList (List.replicate before ' ') ++ text ++
    String.ofList (List.replicate (missing - before) ' ')

/-- At most the first `limit` characters. -/
def truncate (limit : Nat) (text : String) : String :=
  String.ofList (text.toList.take limit)

end Tabular.Text
