import Tabular.Number.Nearest

namespace Tabular

namespace Format

/-- Every magnitude is a whole number of units of decimal place `f.depth`, and this is the number. -/
def expansion (f : Format) (magnitude : Nat) : Nat :=
  f.units magnitude * Nat.pow 5 f.depth

/-- So many units of the place that is last once `dropped` places have been left out. -/
def atPlace (f : Format) (dropped coefficient : Nat) : Decimal :=
  if dropped ≤ f.depth then .ofPlaces coefficient (f.depth - dropped)
  else ⟨coefficient * Nat.pow 10 (dropped - f.depth), 0⟩

/-- Of the two neighbours with `count` digits, the nearer one that reads back; of two equally
near, the larger. -/
def candidate (f : Format) (magnitude count : Nat) : Option Decimal :=
  let digits := f.expansion magnitude
  let dropped := (Nat.toDigits 10 digits).length - count
  let unit := Nat.pow 10 dropped
  let below := digits / unit
  let excess := digits % unit
  let readsBack (d : Decimal) : Bool := f.magnitudeOf d = magnitude
  let low := f.atPlace dropped below
  let high := f.atPlace dropped (below + 1)
  if readsBack low && (2 * excess < unit || !readsBack high) then some low
  else if readsBack high then some high
  else none

/-- Seventeen digits tell all numbers of both formats apart; the exact value always does. -/
def shortest (f : Format) (magnitude : Nat) : Decimal :=
  ((List.range 17).findSome? fun n => f.candidate magnitude (n + 1)).getD
    (.ofPlaces (f.expansion magnitude) f.depth)

end Format

namespace Binary

def toChars : Binary f → List Char
  | .nan => ['N', 'a', 'N']
  | .infinite negative => sign negative ++ ['i', 'n', 'f']
  | .finite negative magnitude => sign negative ++ (f.shortest magnitude).toChars
where
  sign (negative : Bool) : List Char := if negative then ['-'] else []

end Binary

end Tabular
