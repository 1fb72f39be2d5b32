import Tabular.Unicode.Conjunct
import Tabular.Unicode.Control
import Tabular.Unicode.Extender
import Tabular.Unicode.Pictograph
import Tabular.Unicode.SpacingMark

namespace Tabular.Unicode

/-- What the boundaries of graphemes ask of a character. -/
inductive GraphemeClass where
  | carriageReturn
  | lineFeed
  | control
  | extender
  | joiner
  | flagLetter
  | prepended
  | spacingMark
  | leadingJamo
  | vowelJamo
  | trailingJamo
  | openSyllable
  | closedSyllable
  | pictograph
  | other
deriving DecidableEq, Repr

namespace GraphemeClass

/-- The class of a letter of the Korean script; a syllable is open if no trailing letter ends it. -/
def ofHangul? (c : Char) : Option GraphemeClass :=
  if within [(0x1100, 0x115f), (0xa960, 0xa97c)] c then some .leadingJamo
  else if within [(0x1160, 0x11a7), (0xd7b0, 0xd7c6)] c then some .vowelJamo
  else if within [(0x11a8, 0x11ff), (0xd7cb, 0xd7fb)] c then some .trailingJamo
  else if within [(0xac00, 0xd7a3)] c then
    some (if (c.toNat - 0xac00) % 28 = 0 then .openSyllable else .closedSyllable)
  else if within [(0x16d63, 0x16d63), (0x16d67, 0x16d6a)] c then some .vowelJamo
  else none

def ofChar (c : Char) : GraphemeClass :=
  if c = '\r' then .carriageReturn
  else if c = '\n' then .lineFeed
  else if isControl c then .control
  else if c.toNat < 128 then .other
  else if c = '\u200d' then .joiner
  else if isExtender c then .extender
  else if isFlagLetter c then .flagLetter
  else if isPrepended c then .prepended
  else if isSpacingMark c then .spacingMark
  else if isPictograph c then .pictograph
  else (ofHangul? c).getD .other

def standsApart (k : GraphemeClass) : Bool :=
  k = .carriageReturn || k = .lineFeed || k = .control

/-- Whether a character stays with any that does not stand apart. -/
def clings (k : GraphemeClass) : Bool :=
  k = .extender || k = .joiner || k = .spacingMark

/-- Whether two parts of the Korean script belong to one syllable. -/
def formsSyllable : GraphemeClass → GraphemeClass → Bool
  | .leadingJamo, .leadingJamo | .leadingJamo, .vowelJamo => true
  | .leadingJamo, .openSyllable | .leadingJamo, .closedSyllable => true
  | .openSyllable, .vowelJamo | .openSyllable, .trailingJamo => true
  | .vowelJamo, .vowelJamo | .vowelJamo, .trailingJamo => true
  | .closedSyllable, .trailingJamo | .trailingJamo, .trailingJamo => true
  | _, _ => false

end GraphemeClass

/-- Whether a grapheme, its last character first, is a pictograph with its extenders. -/
def endsInPictograph : List Char → Bool
  | [] => false
  | c :: before =>
    if GraphemeClass.ofChar c = .extender then endsInPictograph before
    else GraphemeClass.ofChar c = .pictograph

def endsInLoneFlagLetter (grapheme : List Char) : Bool :=
  (grapheme.takeWhile (GraphemeClass.ofChar · = .flagLetter)).length % 2 = 1

/-- An extender that leaves a conjunct whole; the non-joiner does not. -/
def keepsConjunct (c : Char) : Bool :=
  c = '\u200d' || (isExtender c && c ≠ '\u200c')

/-- Whether a grapheme, its last character first, is a consonant with a linker somewhere behind. -/
def endsInLinked (linked : Bool) : List Char → Bool
  | [] => false
  | c :: before =>
    if isLinker c then endsInLinked true before
    else if keepsConjunct c then endsInLinked linked before
    else linked && isConsonant c

/-- Whether a character belongs to the grapheme before it, whose last character comes first. -/
def continues : List Char → Char → Bool
  | [], _ => false
  | last :: before, c =>
    let left := GraphemeClass.ofChar last
    let right := GraphemeClass.ofChar c
    if left.standsApart || right.standsApart then
      left = .carriageReturn && right = .lineFeed
    else
      right.clings || left = .prepended || left.formsSyllable right ||
        (left = .joiner && right = .pictograph && endsInPictograph before) ||
        (right = .flagLetter && endsInLoneFlagLetter (last :: before)) ||
        (isConsonant c && endsInLinked false (last :: before))

/-- The graphemes of a text that goes on from one, whose last character comes first. -/
def graphemesFrom (grapheme : List Char) : List Char → List (List Char)
  | [] => [grapheme.reverse]
  | c :: rest =>
    if continues grapheme c then graphemesFrom (c :: grapheme) rest
    else grapheme.reverse :: graphemesFrom [c] rest

def graphemes : List Char → List (List Char)
  | [] => []
  | c :: rest => graphemesFrom [c] rest

theorem flatten_graphemesFrom (grapheme cs : List Char) :
    (graphemesFrom grapheme cs).flatten = grapheme.reverse ++ cs := by
  induction cs generalizing grapheme with
  | nil => simp [graphemesFrom]
  | cons c rest ih => by_cases h : continues grapheme c = true <;> simp [graphemesFrom, h, ih]

theorem flatten_graphemes (cs : List Char) : (graphemes cs).flatten = cs := by
  cases cs with
  | nil => rfl
  | cons c rest => exact flatten_graphemesFrom [c] rest

end Tabular.Unicode
