namespace Tabular

/-- The number that the digits denote; none where there is no digit or another character. -/
def readDigits (cs : List Char) : Option Nat :=
  if !cs.isEmpty && cs.all Char.isDigit then some (Nat.ofDigitChars 10 cs 0) else none

/-- A number from 0 to `limit`, which may carry a plus sign. -/
def readNatural (limit : Nat) (cs : List Char) : Option Nat :=
  let digits := match cs with
    | '+' :: rest => rest
    | _ => cs
  (readDigits digits).filter (· ≤ limit)

def readInteger (cs : List Char) : Option Int :=
  match cs with
  | '+' :: rest => (readDigits rest).map Int.ofNat
  | '-' :: rest => (readDigits rest).map fun n => -Int.ofNat n
  | _ => (readDigits cs).map Int.ofNat

/-- An integer is read only within the 32 bits that hold it. -/
def readInt32 (cs : List Char) : Option Int32 :=
  ((readInteger cs).filter fun i => Int32.minValue.toInt ≤ i ∧ i ≤ Int32.maxValue.toInt).map
    Int32.ofInt

/-- The largest index that a save file may give. -/
def indexLimit : Nat := 18446744073709551615

/-- The largest width that a text column may be declared with. -/
def widthLimit : Nat := 4294967295

end Tabular
