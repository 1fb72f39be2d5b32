import Tabular.Unicode.Grapheme

namespace Tabular.Text
open Unicode

/-- The text so far, its last character first, and a size for each grapheme that can go. -/
structure Typed where
  text : List Char
  sizes : List Nat
deriving DecidableEq, Repr

namespace Typed

/-- The text without so many bytes at its end, unless a character would be cut. -/
def dropBytes : Nat → List Char → Option (List Char)
  | 0, cs => some cs
  | _ + 1, [] => none
  | n + 1, c :: before =>
    if c.utf8Size ≤ n + 1 then dropBytes (n + 1 - c.utf8Size) before else none

/-- Sizes are kept in a byte each, so of a long grapheme too little is taken back. -/
def sizeLimit : Nat := 256

/-- A backspace with nothing before it is ignored. -/
def press (t : Typed) (grapheme : List Char) : Option Typed :=
  if grapheme = ['\x08'] then
    match t.sizes with
    | [] => some t
    | size :: sizes => (dropBytes size t.text).map fun text => ⟨text, sizes⟩
  else
    some ⟨grapheme.reverse ++ t.text,
      (String.ofList grapheme).utf8ByteSize % sizeLimit :: t.sizes⟩

end Typed

/-- What is left of a line when its backspaces have been followed. -/
def followBackspaces (line : List Char) : Option (List Char) :=
  ((graphemes line).foldlM Typed.press ⟨[], []⟩).map (·.text.reverse)

end Tabular.Text
