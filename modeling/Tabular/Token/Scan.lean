import Tabular.Error
import Tabular.Unicode.Alphabetic
import Tabular.Unicode.Numeric

namespace Tabular
open Unicode

def isWordStart (c : Char) : Bool :=
  isAlphabetic c || c == '_'

def isWordPart (c : Char) : Bool :=
  isAlphabetic c || isNumeric c || c == '_'

/-- A word is a keyword in any letter case, or else an identifier. -/
def Token.ofWord (word : List Char) : Token :=
  match Keyword.ofWord? word with
  | some k => .keyword k
  | none => .ident (String.ofList word)

/-- The token that the last characters have begun, with its characters in reverse; a text is
closing once a quote has been read that may yet prove to be the first of two. -/
inductive Scan where
  | idle
  | word (read : List Char)
  | minus
  | number (read : List Char) (dotted : Bool)
  | text (read : List Char)
  | closing (read : List Char)
  | bang
  | greater
  | lower
deriving DecidableEq, Repr

namespace Scan

/-- The first character of a token, or one between tokens. -/
def start (c : Char) : Except SyntaxFault (List Token × Scan) :=
  match c with
  | '(' => .ok ([.symbol .leftParen], .idle)
  | ')' => .ok ([.symbol .rightParen], .idle)
  | ',' => .ok ([.symbol .comma], .idle)
  | ';' => .ok ([.symbol .semicolon], .idle)
  | '*' => .ok ([.symbol .star], .idle)
  | '.' => .ok ([.symbol .dot], .idle)
  | '=' => .ok ([.symbol .equal], .idle)
  | '!' => .ok ([], .bang)
  | '>' => .ok ([], .greater)
  | '<' => .ok ([], .lower)
  | '\'' => .ok ([], .text [])
  | '-' => .ok ([], .minus)
  | _ =>
    if isSpace c then .ok ([], .idle)
    else if c.isDigit then .ok ([], .number [c] false)
    else if isWordStart c then .ok ([], .word [c])
    else .error (.strayCharacter c)

/-- A token ends before a character that cannot go on with it. -/
def after (token : Token) (c : Char) : Except SyntaxFault (List Token × Scan) :=
  (start c).map fun (tokens, scan) => (token :: tokens, scan)

def step (scan : Scan) (c : Char) : Except SyntaxFault (List Token × Scan) :=
  match scan with
  | .idle => start c
  | .word read =>
    if isWordPart c then .ok ([], .word (c :: read))
    else after (.ofWord read.reverse) c
  | .minus =>
    if c.isDigit then .ok ([], .number [c, '-'] false)
    else .error (.strayCharacter '-')
  | .number read dotted =>
    if c.isDigit then .ok ([], .number (c :: read) dotted)
    else if c = '.' then
      if dotted then .error .secondDot else .ok ([], .number (c :: read) true)
    else if isWordStart c then .error (.letterAfterNumber c (String.ofList read.reverse))
    else after (.number (String.ofList read.reverse)) c
  | .text read =>
    if c = '\'' then .ok ([], .closing read) else .ok ([], .text (c :: read))
  | .closing read =>
    if c = '\'' then .ok ([], .text (c :: read))
    else after (.text (String.ofList read.reverse)) c
  | .bang => if c = '=' then .ok ([.symbol .notEqual], .idle) else .error .loneBang
  | .greater => if c = '=' then .ok ([.symbol .greaterEqual], .idle) else after (.symbol .greater) c
  | .lower => if c = '=' then .ok ([.symbol .lowerEqual], .idle) else after (.symbol .lower) c

def finish : Scan → Except SyntaxFault (List Token)
  | .idle => .ok []
  | .word read => .ok [.ofWord read.reverse]
  | .minus => .error (.strayCharacter '-')
  | .number read _ => .ok [.number (String.ofList read.reverse)]
  | .text _ => .error .openText
  | .closing read => .ok [.text (String.ofList read.reverse)]
  | .bang => .error .loneBang
  | .greater => .ok [.symbol .greater]
  | .lower => .ok [.symbol .lower]

def run (scan : Scan) : List Char → Except SyntaxFault (List Token)
  | [] => scan.finish
  | c :: rest => do
    let (tokens, next) ← scan.step c
    return tokens ++ (← next.run rest)

end Scan

namespace Token

def scan (text : String) : Except SyntaxFault (List Token) :=
  Scan.idle.run text.toList

/-- The tokens of a statement, with the mark that ends it. -/
def scanStatement (sql : String) : Except SyntaxFault (List Token) := do
  return (← scan sql) ++ [.stop]

/-- A text between quotes, with the quotes within it doubled. -/
def quote (text : String) : String :=
  String.ofList
    ('\'' :: text.toList.flatMap (fun c => if c = '\'' then ['\'', '\''] else [c]) ++ ['\''])

end Token

end Tabular
