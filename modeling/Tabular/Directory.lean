import Tabular.Failure

namespace Tabular

inductive Entry where
  | file (content : ByteArray)
  | folder

/-- The names that lead to an entry from the top. -/
abbrev Path := List String

/-- Every entry but the top folder is listed once, under its path. -/
structure Directory where
  entries : List (Path × Entry)

namespace Directory

def empty : Directory := ⟨[]⟩

def find? (d : Directory) (path : Path) : Option Entry :=
  if path.isEmpty then some .folder else d.entries.lookup path

def put (d : Directory) (path : Path) (entry : Entry) : Directory :=
  if (d.entries.lookup path).isSome then
    ⟨d.entries.map fun (other, old) => (other, if other = path then entry else old)⟩
  else
    ⟨d.entries ++ [(path, entry)]⟩

def parts (name : String) : List String :=
  (name.toList.splitOn '/').map String.ofList

/-- The entry is put in its place along with the folders that lead there. -/
def place (d : Directory) (name : String) (entry : Entry) : Directory :=
  let path := parts name
  let folders := (List.range path.length).filterMap fun n =>
    if n = 0 then none else some (path.take n)
  (folders.foldl (fun d folder => if (d.find? folder).isSome then d else d.put folder .folder)
    d).put path entry

def nameLimit : Nat := 255

/-- One step down the tree, where a dot stays and two dots go back up. -/
def enter (d : Directory) (path : Path) (name : String) : Except FileFault Path :=
  if name = "" ∨ name = "." then .ok path
  else if name = ".." then .ok path.dropLast
  else if nameLimit < name.utf8ByteSize then .error .nameTooLong
  else match d.find? (path ++ [name]) with
    | some .folder => .ok (path ++ [name])
    | some (.file _) => .error .notDirectory
    | none => .error .notFound

/-- Whether a last part can only mean a folder. -/
def meansFolder (part : String) : Bool :=
  part = "" ∨ part = "." ∨ part = ".."

def pathLimit : Nat := 4096

/-- The faults of a name that show before any folder is looked at. -/
def checkName (name : String) : Except FileFault Unit :=
  if name.toList.contains '\x00' then .error .zeroInName
  else if pathLimit ≤ name.utf8ByteSize then .error .nameTooLong
  else .ok ()

/-- The path that all parts of a name but the last lead to, and that last part. -/
def locate (d : Directory) (name : String) : Except FileFault (Path × String) := do
  return (← (parts name).dropLast.foldlM d.enter [], (parts name).getLast?.getD "")

def checkLast (last : String) : Except FileFault Unit :=
  if meansFolder last then .error .isDirectory
  else if nameLimit < last.utf8ByteSize then .error .nameTooLong
  else .ok ()

def read (d : Directory) (name : String) : Except FileFault ByteArray := do
  checkName name
  let (path, last) ← d.locate name
  checkLast last
  match d.find? (path ++ [last]) with
  | some (.file content) => return content
  | some .folder => throw .isDirectory
  | none => throw .notFound

def withoutSlashes (name : String) : String :=
  String.ofList ((name.toList.reverse.dropWhile (· = '/')).reverse)

/-- A slash at the end of a name that is to be written makes it a folder's, whatever is there. -/
def write (d : Directory) (name : String) (content : ByteArray) : Except FileFault Directory := do
  checkName name
  let (path, last) ← d.locate (withoutSlashes name)
  if withoutSlashes name ≠ name then
    throw .isDirectory
  checkLast last
  match d.find? (path ++ [last]) with
  | some .folder => throw .isDirectory
  | _ => return d.put (path ++ [last]) (.file content)

/-- The files by name, in the order of their names. -/
def files (d : Directory) : List (String × ByteArray) :=
  let named := d.entries.filterMap fun (path, entry) => match entry with
    | .file content => some ("/".intercalate path, content)
    | .folder => none
  named.mergeSort fun a b => a.1 ≤ b.1

end Directory

end Tabular
