import Tabular.Script
import Tabular.Text.Typed

namespace Tabular

/-- An option that takes a value. -/
inductive Setting where
  | folder
  | command
  | script
deriving DecidableEq, Repr

inductive Switch where
  | setting (s : Setting)
  | verbose
  | quiet
  | version
  | help
deriving DecidableEq, Repr

namespace Switch

def ofWord? (word : String) : Option Switch :=
  [("data-dir", .setting .folder), ("command", .setting .command), ("file", .setting .script),
    ("verbose", .verbose), ("quiet", .quiet), ("version", .version), ("help", .help)].lookup word

def ofLetter? (letter : Char) : Option Switch :=
  [('c', .setting .command), ('f', .setting .script), ('v', .verbose), ('q', .quiet),
    ('V', .version), ('h', .help)].lookup letter

end Switch

inductive UsageFault where
  | unexpected (argument : String)
  | noValue (setting : Setting)
  | emptyValue (setting : Setting)
  | repeated (switch : Switch)
deriving DecidableEq, Repr

structure Options where
  folder : Option String
  command : Option String
  script : Option String
  verbose : Bool
  quiet : Bool
deriving DecidableEq, Repr

namespace Options

def initial : Options := ⟨none, none, none, false, false⟩

def value (o : Options) : Setting → Option String
  | .folder => o.folder
  | .command => o.command
  | .script => o.script

/-- Each setting is made once, and only a command may be empty. -/
def assign (o : Options) (s : Setting) (value : String) : Except UsageFault Options :=
  if (o.value s).isSome then .error (.repeated (.setting s))
  else match s with
    | .command => .ok { o with command := some value }
    | .folder =>
      if value = "" then .error (.emptyValue s) else .ok { o with folder := some value }
    | .script =>
      if value = "" then .error (.emptyValue s) else .ok { o with script := some value }

/-- The folder given, or the one in the environment, or else the current one. -/
def folderOr (o : Options) (environment : Option String) : Except UsageFault String :=
  match o.folder, environment with
  | some folder, _ => .ok folder
  | none, some folder => if folder = "" then .error (.emptyValue .folder) else .ok folder
  | none, none => .ok "."

end Options

inductive Request where
  | run (options : Options)
  | version
  | help
deriving DecidableEq, Repr

/-- Where the reading of the arguments stands. -/
inductive Progress where
  | going (o : Options)
  | awaiting (o : Options) (s : Setting)
  | done (request : Request)
deriving DecidableEq, Repr

namespace CommandLine

def flag (o : Options) : Switch → Except UsageFault Progress
  | .setting s => .ok (.awaiting o s)
  | .verbose =>
    if o.verbose then .error (.repeated .verbose) else .ok (.going { o with verbose := true })
  | .quiet => if o.quiet then .error (.repeated .quiet) else .ok (.going { o with quiet := true })
  | .version => .ok (.done .version)
  | .help => .ok (.done .help)

/-- The rest of a cluster of letters is the value of a setting among them. -/
def letters (argument : String) (o : Options) : List Char → Except UsageFault Progress
  | [] => .ok (.going o)
  | letter :: rest =>
    match Switch.ofLetter? letter, rest with
    | none, _ => .error (.unexpected argument)
    | some (.setting s), '=' :: value => return .going (← o.assign s (String.ofList value))
    | some (.setting s), c :: value => return .going (← o.assign s (String.ofList (c :: value)))
    | some switch, _ => do
      match ← flag o switch with
      | .going next => letters argument next rest
      | other => return other

/-- A word may have its value behind an equals sign. -/
def word (argument : String) (o : Options) (cs : List Char) : Except UsageFault Progress := do
  let some switch := Switch.ofWord? (String.ofList (cs.takeWhile (· ≠ '=')))
    | throw (.unexpected argument)
  match switch, cs.dropWhile (· ≠ '=') with
  | _, [] => flag o switch
  | .setting s, _ :: value => return .going (← o.assign s (String.ofList value))
  | _, _ => throw (.unexpected argument)

/-- A dash alone is a value; anything longer that starts with one is not. -/
def isValue (argument : String) : Bool :=
  argument = "-" ∨ argument.toList.head? ≠ some '-'

def readArguments (o : Options) : List String → Except UsageFault Request
  | [] => .ok (.run o)
  | argument :: rest => do
    if isValue argument then
      throw (.unexpected argument)
    let progress ← match argument.toList with
      | ['-', '-'] =>
        match rest with
        | [] => pure (.done (.run o))
        | extra :: _ => throw (.unexpected extra)
      | '-' :: '-' :: cs => word argument o cs
      | cs => letters argument o cs.tail
    match progress with
    | .done request => return request
    | .going next => readArguments next rest
    | .awaiting next s =>
      match rest with
      | value :: others =>
        if isValue value then readArguments (← next.assign s value) others
        else throw (.noValue s)
      | [] => throw (.noValue s)

def version : String := "minidb 0.1.0"

def banner (folder : String) : String :=
  s!"{version}\nData directory: {folder}\nType @info to list tables, @close to quit.\n"

def usage : String :=
  "Usage: minidb [--data-dir DIR] [-c LINE | -f FILE] [-v] [-q]\n"

variable {m : Type → Type} [Monad m] [Host m]

def exitCode : Except FileFault α → UInt32
  | .ok _ => 0
  | .error _ => 1

/-- Why the program's input may fail to give a line. -/
inductive LineFault where
  | notText
  | cutCharacter
deriving DecidableEq, Repr

def abortCode : UInt32 := 101

/-- Input that is no text ends the program as its end does, but a cut character aborts it. -/
def LineFault.exitCode : LineFault → UInt32
  | .notText => 0
  | .cutCharacter => abortCode

def typedLine (line : List UInt8) : Except LineFault String :=
  match decodeLine line with
  | .error _ => .error .notText
  | .ok text =>
    match Text.followBackspaces text.toList with
    | none => .error .cutCharacter
    | some cs => .ok (String.ofList cs)

/-- A blank line is passed over and never comes to the console. -/
def converseOn (folder : String) (db : Database) : List (List UInt8) → m UInt32
  | [] => return 0
  | line :: rest => do
    match typedLine line with
    | .error fault => return fault.exitCode
    | .ok text =>
      if (Text.trim text.toList).isEmpty then
        converseOn folder db rest
      else
        match ← Console.handle folder db text with
        | (next, .ok .proceed) => converseOn folder next rest
        | (_, result) => return exitCode result

/-- A session on the program's input, which ends without a flush. -/
def converse (folder : String) : m UInt32 := do
  converseOn folder .empty (Text.lines 10 (← Host.input).data.toList)

def runScript (folder script : String) : m UInt32 := do
  return exitCode (← Script.run folder script .empty).2

/-- A single command goes before a script, and a script before the program's input; a banner that
cannot be written aborts the program. -/
def run (o : Options) (folder : String) : m UInt32 := do
  match o.command, o.script with
  | some line, _ => return exitCode (← Console.handle folder .empty line).2
  | none, some script => runScript folder script
  | none, none =>
    if o.quiet then
      converse folder
    else
      match ← Host.print (banner folder) with
      | .ok () => converse folder
      | .error _ => return abortCode

def start (arguments : List String) (environment : Option String) : m UInt32 := do
  match readArguments .initial arguments with
  | .error _ => return 2
  | .ok .version =>
    discard (Host.print (version ++ "\n"))
    return 0
  | .ok .help =>
    discard (Host.print usage)
    return 0
  | .ok (.run o) =>
    match o.folderOr environment with
    | .error _ => return 2
    | .ok folder => run o folder

end CommandLine

end Tabular
