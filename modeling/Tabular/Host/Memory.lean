import Tabular.Directory
import Tabular.Host

namespace Tabular

/-- The files, the input and the output; once closed, the output takes nothing more. -/
structure Memory where
  directory : Directory
  input : ByteArray
  written : String
  closed : Bool

namespace Memory

def ofDirectory (d : Directory) : Memory := ⟨d, .empty, "", false⟩

def readFile (name : String) : StateM Memory (Except FileFault ByteArray) := do
  return (← get).directory.read name

def writeFile (name : String) (content : ByteArray) : StateM Memory (Except FileFault Unit) := do
  let memory ← get
  match memory.directory.write name content with
  | .ok d =>
    set { memory with directory := d }
    return .ok ()
  | .error fault => return .error fault

def print (text : String) : StateM Memory (Except FileFault Unit) := do
  let memory ← get
  if memory.closed then
    return .error .closed
  else
    set { memory with written := memory.written ++ text }
    return .ok ()

def flush : StateM Memory (Except FileFault Unit) := do
  return if (← get).closed then .error .closed else .ok ()

instance : Host (StateM Memory) where
  input := Memory.input <$> get
  read := readFile
  write := writeFile
  print := print
  flush := flush

end Memory

end Tabular
