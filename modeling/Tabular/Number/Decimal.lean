import Tabular.Number.Integer

namespace Tabular

/-- The number `coefficient * 10 ^ exponent`. -/
structure Decimal where
  coefficient : Nat
  exponent : Int
deriving DecidableEq, Repr

namespace Decimal

def readExponent : List Char → Option Int
  | [] => some 0
  | mark :: rest => if mark = 'e' ∨ mark = 'E' then readInteger rest else none

/-- Digits with an optional point among or beside them, then an optional exponent. -/
def read (cs : List Char) : Option Decimal := do
  let whole := cs.takeWhile Char.isDigit
  let (part, rest) := match cs.dropWhile Char.isDigit with
    | '.' :: rest => (rest.takeWhile Char.isDigit, rest.dropWhile Char.isDigit)
    | rest => ([], rest)
  let coefficient ← readDigits (whole ++ part)
  let exponent ← readExponent rest
  return ⟨coefficient, exponent - part.length⟩

/-- The zeros that end the places behind the point are left out. -/
def ofPlaces (coefficient : Nat) : Nat → Decimal
  | 0 => ⟨coefficient, 0⟩
  | places + 1 =>
    if coefficient % 10 = 0 then ofPlaces (coefficient / 10) places
    else ⟨coefficient, -(places + 1)⟩

/-- Every digit is written out; a point has digits on both sides. -/
def toChars (d : Decimal) : List Char :=
  let digits := Nat.toDigits 10 d.coefficient
  let places := (-d.exponent).toNat
  if places = 0 then digits ++ List.replicate d.exponent.toNat '0'
  else
    let filled := List.replicate (places + 1 - digits.length) '0' ++ digits
    filled.take (filled.length - places) ++ '.' :: filled.drop (filled.length - places)

end Decimal

end Tabular
