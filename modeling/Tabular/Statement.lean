import Tabular.Comparator
import Tabular.Literal

namespace Tabular

/-- One comparison of a WHERE clause; an alternative opens a new group of an OR. -/
structure Predicate where
  alternative : Bool
  negated : Bool
  column : String
  comparator : Comparator
  literal : Literal
deriving DecidableEq, Repr

/-- The filter of a statement is its WHERE clause. -/
abbrev Filter := Option (List Predicate)

structure ColumnSpec where
  name : String
  typeWord : String
  width : Option Nat
deriving DecidableEq, Repr

structure QualifiedColumn where
  table : String
  column : String
deriving DecidableEq, Repr

inductive JoinKind where
  | inner
  | left
  | right
deriving DecidableEq, Repr

structure JoinClause where
  kind : JoinKind
  table : String
  first : QualifiedColumn
  second : QualifiedColumn
deriving DecidableEq, Repr

inductive Projection where
  | all
  | names (columns : List String)
deriving DecidableEq, Repr

/-- A SELECT statement. -/
structure Query where
  projection : Projection
  table : String
  join : Option JoinClause
  filter : Filter
deriving DecidableEq, Repr

/-- A statement that may change the tables. -/
inductive Change where
  | createTable (name : String) (columns : List ColumnSpec) (key : List String)
  | insert (table : String) (columns : Option (List String)) (rows : List (List Literal))
  | dropTable (name : String)
  | update (table column : String) (literal : Literal) (filter : Filter)
  | delete (table : String) (filter : Filter)
deriving DecidableEq, Repr

/-- A statement as it is written, with no name resolved. -/
inductive Statement where
  | query (query : Query)
  | change (change : Change)
deriving DecidableEq, Repr

end Tabular
