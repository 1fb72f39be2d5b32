namespace Tabular

/-- A format has so many bits of fraction and so many of exponent. -/
structure Format where
  fraction : Nat
  exponent : Nat
deriving DecidableEq, Repr

namespace Format

def single : Format := ⟨23, 8⟩

def double : Format := ⟨52, 11⟩

/-- The first magnitude past the finite ones. -/
def infinity (f : Format) : Nat :=
  (Nat.pow 2 f.exponent - 1) * Nat.pow 2 f.fraction

/-- The least positive number is two to the power of minus this. -/
def depth (f : Format) : Nat :=
  Nat.pow 2 (f.exponent - 1) + f.fraction - 2

/-- How many times the least positive number a magnitude is. -/
def units (f : Format) (magnitude : Nat) : Nat :=
  let hidden := Nat.pow 2 f.fraction
  if magnitude < hidden then magnitude
  else (hidden + magnitude % hidden) * Nat.pow 2 (magnitude / hidden - 1)

end Format

/-- A magnitude is the exponent and the fraction read as one natural number, so a larger one
belongs to a larger number. -/
inductive Binary (f : Format) where
  | nan
  | infinite (negative : Bool)
  | finite (negative : Bool) (magnitude : Fin f.infinity)
deriving DecidableEq, Repr

namespace Binary

def isFinite : Binary f → Bool
  | .finite .. => true
  | _ => false

/-- The place in the order of numbers, where the two zeros share one and no NaN has any. -/
def rank : Binary f → Option Int
  | .nan => none
  | .infinite negative => some (signed negative f.infinity)
  | .finite negative magnitude => some (signed negative magnitude)
where
  signed (negative : Bool) (n : Nat) : Int := if negative then -n else n

end Binary

end Tabular
