import Tabular.Text.Quoted

namespace Tabular

inductive Keyword where
  | create | table | primary | key | insert | into | values | drop | update | set | delete
  | select | from | where | inner | left | right | join | on | and | or | not | null | true | false
deriving DecidableEq, Repr

namespace Keyword

def all : List Keyword :=
  [.create, .table, .primary, .key, .insert, .into, .values, .drop, .update, .set, .delete,
    .select, .from, .where, .inner, .left, .right, .join, .on, .and, .or, .not, .null, .true,
    .false]

def label : Keyword → String
  | .create => "Create"
  | .table => "Table"
  | .primary => "Primary"
  | .key => "Key"
  | .insert => "Insert"
  | .into => "Into"
  | .values => "Values"
  | .drop => "Drop"
  | .update => "Update"
  | .set => "Set"
  | .delete => "Delete"
  | .select => "Select"
  | .from => "From"
  | .where => "Where"
  | .inner => "Inner"
  | .left => "Left"
  | .right => "Right"
  | .join => "Join"
  | .on => "On"
  | .and => "And"
  | .or => "Or"
  | .not => "Not"
  | .null => "Null"
  | .true => "True"
  | .false => "False"

/-- A keyword in capitals. -/
def spelling (k : Keyword) : List Char :=
  k.label.toList.map Char.toUpper

/-- The capitals of a letter whose upper-case form lies in ASCII; anything else is left as it is,
for no keyword holds it. -/
def capitals (c : Char) : List Char :=
  match c with
  | 'ß' => ['S', 'S']
  | 'ı' => ['I']
  | 'ſ' => ['S']
  | 'ﬀ' => ['F', 'F']
  | 'ﬁ' => ['F', 'I']
  | 'ﬂ' => ['F', 'L']
  | 'ﬃ' => ['F', 'F', 'I']
  | 'ﬄ' => ['F', 'F', 'L']
  | 'ﬅ' => ['S', 'T']
  | 'ﬆ' => ['S', 'T']
  | _ => [c.toUpper]

def ofWord? (word : List Char) : Option Keyword :=
  all.find? (·.spelling == word.flatMap capitals)

end Keyword

inductive Symbol where
  | leftParen | rightParen | comma | semicolon | star | dot
  | equal | notEqual | greater | greaterEqual | lower | lowerEqual
deriving DecidableEq, Repr

namespace Symbol

def all : List Symbol :=
  [.leftParen, .rightParen, .comma, .semicolon, .star, .dot, .equal, .notEqual, .greater,
    .greaterEqual, .lower, .lowerEqual]

def label : Symbol → String
  | .leftParen => "LeftParen"
  | .rightParen => "RightParen"
  | .comma => "Comma"
  | .semicolon => "Semicolon"
  | .star => "Star"
  | .dot => "Dot"
  | .equal => "Equal"
  | .notEqual => "NotEqual"
  | .greater => "Greater"
  | .greaterEqual => "GreaterEqual"
  | .lower => "Lower"
  | .lowerEqual => "LowerEqual"

end Symbol

/-- The texts of a number and of an identifier are kept as written; `stop` ends a statement. -/
inductive Token where
  | keyword (k : Keyword)
  | symbol (s : Symbol)
  | ident (name : String)
  | number (digits : String)
  | text (content : String)
  | stop
deriving DecidableEq, Repr

/-- A token as messages name it. -/
def Token.describe : Token → String
  | .keyword k => k.label
  | .symbol s => s.label
  | .ident name => s!"Ident({Text.quoted name})"
  | .number digits => s!"Number({Text.quoted digits})"
  | .text content => s!"String({Text.quoted content})"
  | .stop => "Eof"

end Tabular
