import Tabular.Console

namespace Tabular.Script
open Text

def pieceSize : Nat := 8192

/-- No file is longer. -/
def sizeLimit : Nat := 9223372036854775807

/-- The bytes that a reader of a file is given when it has come this far. -/
def piece (content : ByteArray) (offset : Nat) : List UInt8 :=
  (content.extract offset (min (offset + pieceSize) sizeLimit)).data.toList

theorem length_piece_le (content : ByteArray) (offset : Nat) :
    (piece content offset).length ≤ sizeLimit - offset := by
  simp only [piece, ByteArray.data_extract, Array.length_toList, Array.size_extract]
  omega

/-- The bytes whose lines are whole, and those that wait for more; nothing waits at the end. -/
def settle (waiting next : List UInt8) : List UInt8 × List UInt8 :=
  if next.isEmpty then (waiting, []) else splitAtLast 10 (waiting ++ next)

variable {m : Type → Type} [Monad m] [Host m]

/-- A script is read piece by piece as it runs, so that one that is written to goes on with what it
holds by then; even after its last line it is looked at once more. -/
def runFrom (folder script : String) (db : Database) (offset : Nat) (waiting : List UInt8) :
    m (Database × Except FileFault Unit) := do
  match ← Host.read script with
  | .error fault => return (db, .error fault)
  | .ok content =>
    let next := piece content offset
    if next.isEmpty && waiting.isEmpty then
      Console.finish (db, .ok .close)
    else
      match ← Console.handleBytes folder db (lines 10 (settle waiting next).1) with
      | (db, .ok .proceed) =>
        runFrom folder script db (offset + next.length) (settle waiting next).2
      | other => Console.finish other
termination_by (sizeLimit - offset, waiting.length)
decreasing_by
  rename_i stop
  have bound := length_piece_le content offset
  cases read : piece content offset with
  | nil =>
    have waits : waiting ≠ [] := by
      intro none
      simp [next, read, none] at stop
    simp only [settle, List.isEmpty_nil, ↓reduceIte, List.length_nil, Nat.add_zero]
    exact .right _ (List.length_pos_iff.2 waits)
  | cons b rest =>
    rw [read, List.length_cons] at bound
    exact .left _ _ (by rw [List.length_cons]; omega)

def run (folder script : String) (db : Database) : m (Database × Except FileFault Unit) :=
  runFrom folder script db 0 []

end Tabular.Script
