import Tabular.Comparator
import Tabular.Kind
import Tabular.Number.Shortest
import Tabular.Text.Pad

namespace Tabular

inductive Value where
  | null
  | int (value : Int32)
  | float (value : Binary .single)
  | double (value : Binary .double)
  | bool (value : Bool)
  | text (value : String)
deriving DecidableEq, Repr

namespace Value

def kind? : Value → Option Kind
  | .null => none
  | .int _ => some .int
  | .float _ => some .float
  | .double _ => some .double
  | .bool _ => some .bool
  | .text _ => some .text

def isNull (v : Value) : Bool :=
  v.kind?.isNone

/-- Only a float can fail to be finite. -/
def isFinite : Value → Bool
  | .float x => x.isFinite
  | .double x => x.isFinite
  | _ => true

/-- Values of one kind are ordered, but for NaN; null and values of different kinds are not. -/
def order : Value → Value → Option Ordering
  | .int a, .int b => some (compare a.toInt b.toInt)
  | .float a, .float b => ranks a.rank b.rank
  | .double a, .double b => ranks a.rank b.rank
  | .bool a, .bool b => some (compare a.toNat b.toNat)
  | .text a, .text b => some (compare a b)
  | _, _ => none
where
  ranks : Option Int → Option Int → Option Ordering
    | some a, some b => some (compare a b)
    | _, _ => none

/-- Equality as conditions, keys and joins see it: null equals null, the two zeros are equal, and
NaN equals nothing. -/
def same (a b : Value) : Bool :=
  (a.isNull && b.isNull) || a.order b == some .eq

def compare (a : Value) (comparator : Comparator) (b : Value) : Bool :=
  match comparator with
  | .eq => a.same b
  | .ne => !a.same b
  | .gt => a.order b == some .gt
  | .ge => a.order b == some .gt || a.order b == some .eq
  | .lt => a.order b == some .lt
  | .le => a.order b == some .lt || a.order b == some .eq

/-- Reads an unquoted word as a value of the kind; NaN and the infinities are no values. -/
def read? (kind : Kind) (word : String) : Option Value :=
  match kind with
  | .int => (readInt32 word.toList).map .int
  | .float => ((Binary.read word.toList).filter Binary.isFinite).map .float
  | .double => ((Binary.read word.toList).filter Binary.isFinite).map .double
  | .bool =>
    let letters := word.toList.map Char.toLower
    if letters = "true".toList ∨ letters = ['1'] then some (.bool true)
    else if letters = "false".toList ∨ letters = ['0'] then some (.bool false)
    else none
  | .text => some (.text word)

def render : Value → String
  | .null => "NULL"
  | .int i => toString i.toInt
  | .float x => String.ofList x.toChars
  | .double x => String.ofList x.toChars
  | .bool b => if b then "true" else "false"
  | .text s => s

/-- The content of a cell of the kind, if the value has that kind. -/
def cell? : (kind : Kind) → Value → Option kind.Cell
  | .int, .int i => some i
  | .float, .float x => some x
  | .double, .double x => some x
  | .bool, .bool b => some b
  | .text, .text s => some s
  | _, _ => none

def ofCell : (kind : Kind) → kind.Cell → Value
  | .int, i => .int i
  | .float, x => .float x
  | .double, x => .double x
  | .bool, b => .bool b
  | .text, s => .text s

theorem ofCell_of_cell? {kind : Kind} {v : Value} {content : kind.Cell}
    (h : v.cell? kind = some content) : ofCell kind content = v := by
  cases kind <;> cases v <;> simp_all [cell?, ofCell]

end Value

end Tabular
