import Tabular.Row
import Tabular.Schema
import Tabular.Typing

namespace Tabular

structure Comparison where
  column : Nat
  comparator : Comparator
  negated : Bool
  operand : Value
deriving DecidableEq, Repr

namespace Comparison

def negate (c : Comparison) : Comparison :=
  { c with negated := !c.negated }

def holds (c : Comparison) (row : Row) : Bool :=
  (row.value c.column).compare c.comparator c.operand != c.negated

end Comparison

/-- One of the groups has to hold, and in it every comparison. -/
structure Condition where
  groups : List (List Comparison)
deriving DecidableEq, Repr

namespace Condition

def empty : Condition := ⟨[]⟩

/-- The comparison goes to the last group, which is opened if need be. -/
def and (condition : Condition) (c : Comparison) : Condition :=
  match condition.groups.getLast? with
  | some group => ⟨condition.groups.dropLast ++ [group ++ [c]]⟩
  | none => ⟨[[c]]⟩

def or (condition : Condition) (c : Comparison) : Condition :=
  ⟨condition.groups ++ [[c]]⟩

def accepts (condition : Condition) (row : Row) : Bool :=
  condition.groups.any fun group => group.all fun c => c.holds row

/-- The column's kind types the literal of a predicate. -/
def resolve (schema : Schema) (p : Predicate) : Except Error Comparison := do
  let column ← schema.resolve p.column
  let operand ← Value.ofLiteral (schema.get column).kind p.literal
  return ⟨column, p.comparator, p.negated, operand⟩

def ofPredicates (schema : Schema) (predicates : List Predicate) : Except Error Condition :=
  predicates.foldlM (fun condition p => do
    let c ← resolve schema p
    return if p.alternative then condition.or c else condition.and c) empty

end Condition

end Tabular
