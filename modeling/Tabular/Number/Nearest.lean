import Tabular.Number.Binary
import Tabular.Number.Decimal

namespace Tabular

/-- The whole number nearest to `n / d`; a half goes to the even neighbour. -/
def nearest (n d : Nat) : Nat :=
  let twice := 2 * (n % d)
  if twice < d ∨ (twice = d ∧ n / d % 2 = 0) then n / d else n / d + 1

/-- The magnitude nearest to `n / d` times the least positive number, were there no largest. -/
def Format.magnitude (f : Format) (n d : Nat) : Nat :=
  let shift := Nat.log2 (n / d) - f.fraction
  nearest n (d * Nat.pow 2 shift) + shift * Nat.pow 2 f.fraction

/-- Exponents this far out give infinity or zero whatever the coefficient, and none beyond them
is computed with. -/
def Decimal.clamp (f : Format) (d : Decimal) : Int :=
  let most := Int.ofNat (Nat.pow 2 f.exponent)
  max (-most - (Nat.toDigits 10 d.coefficient).length) (min most d.exponent)

def Format.magnitudeOf (f : Format) (d : Decimal) : Nat :=
  let exponent := d.clamp f
  f.magnitude (d.coefficient * Nat.pow 10 exponent.toNat * Nat.pow 2 f.depth)
    (Nat.pow 10 (-exponent).toNat)

namespace Binary

def ofDecimal (negative : Bool) (d : Decimal) : Binary f :=
  let magnitude := f.magnitudeOf d
  if h : magnitude < f.infinity then .finite negative ⟨magnitude, h⟩ else .infinite negative

def readUnsigned (negative : Bool) (cs : List Char) : Option (Binary f) :=
  let word := cs.map Char.toLower
  if word = ['n', 'a', 'n'] then some .nan
  else if word = ['i', 'n', 'f'] ∨ word = ['i', 'n', 'f', 'i', 'n', 'i', 't', 'y'] then
    some (.infinite negative)
  else (Decimal.read cs).map (ofDecimal negative)

def read (cs : List Char) : Option (Binary f) :=
  match cs with
  | '-' :: rest => readUnsigned true rest
  | '+' :: rest => readUnsigned false rest
  | _ => readUnsigned false cs

end Binary

end Tabular
