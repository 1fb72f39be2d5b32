import Tabular.Unicode.Space

namespace Tabular.Text
open Unicode

def trimStart (cs : List Char) : List Char :=
  cs.dropWhile isSpace

def trimEnd (cs : List Char) : List Char :=
  (trimStart cs.reverse).reverse

def trim (cs : List Char) : List Char :=
  trimEnd (trimStart cs)

/-- The longest runs without white space. -/
def words (cs : List Char) : List (List Char) :=
  (cs.splitOnP isSpace).filter (!·.isEmpty)

/-- What precedes the first white space and what follows it, if there is any. -/
def cut (cs : List Char) : Option (List Char × List Char) :=
  match cs.dropWhile (!isSpace ·) with
  | [] => none
  | _ :: rest => some (cs.takeWhile (!isSpace ·), rest)

/-- The lines of a text; a feed at its very end opens no further line. -/
def lines [BEq α] (feed : α) : List α → List (List α)
  | [] => []
  | a :: rest =>
    if a == feed then [] :: lines feed rest
    else match lines feed rest with
      | [] => [[a]]
      | line :: others => (a :: line) :: others

/-- What goes up to the last feed, and what comes after it. -/
def splitAtLast [BEq α] (feed : α) (as : List α) : List α × List α :=
  ((as.reverse.dropWhile (· != feed)).reverse, (as.reverse.takeWhile (· != feed)).reverse)

end Tabular.Text
