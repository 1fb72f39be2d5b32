import Tabular.Statement
import Tabular.Text.Record

namespace Tabular
open Text

def Comparator.label : Comparator → String
  | .eq => "Eq"
  | .ne => "Ne"
  | .gt => "Gt"
  | .ge => "Ge"
  | .lt => "Lt"
  | .le => "Le"

def Predicate.describe (p : Predicate) : String :=
  record "Predicate" [("or", toString p.alternative), ("negated", toString p.negated),
    ("column", quoted p.column), ("op", p.comparator.label), ("value", p.literal.describe)]

def Filter.describe (f : Filter) : String :=
  optional (f.map fun predicates => listed (predicates.map Predicate.describe))

def ColumnSpec.describe (c : ColumnSpec) : String :=
  record "ColumnSpec" [("name", quoted c.name), ("type_name", quoted c.typeWord),
    ("width", optional (c.width.map toString))]

/-- A change with every part spelled out on one line. -/
def Change.describe : Change → String
  | .createTable name columns key =>
    let parts := record "CreateTable" [("name", quoted name),
      ("columns", listed (columns.map ColumnSpec.describe)),
      ("primary_key", listed (key.map quoted))]
    s!"CreateTable({parts})"
  | .insert table columns rows =>
    let parts := record "Insert" [("table", quoted table),
      ("columns", optional (columns.map fun names => listed (names.map quoted))),
      ("rows", listed (rows.map fun row => listed (row.map Literal.describe)))]
    s!"Insert({parts})"
  | .dropTable name => s!"DropTable({quoted name})"
  | .update table column literal filter =>
    let parts := record "Update" [("table", quoted table), ("column", quoted column),
      ("value", literal.describe), ("where_clause", filter.describe)]
    s!"Update({parts})"
  | .delete table filter =>
    let parts := record "Delete" [("table", quoted table), ("where_clause", filter.describe)]
    s!"Delete({parts})"

end Tabular
