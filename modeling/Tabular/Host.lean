import Tabular.Failure

namespace Tabular

class Host (m : Type → Type) where
  input : m ByteArray
  read : String → m (Except FileFault ByteArray)
  write : String → ByteArray → m (Except FileFault Unit)
  print : String → m (Except FileFault Unit)
  flush : m (Except FileFault Unit)

/-- A name with a slash in front stands for itself; any other is looked for in the folder. -/
def fileIn (folder name : String) : String :=
  if name.toList.head? = some '/' ∨ folder = "" then name
  else if folder.toList.getLast? = some '/' then folder ++ name
  else folder ++ "/" ++ name

def decodeText (content : ByteArray) : Except FileFault String :=
  match String.fromUTF8? content with
  | some text => .ok text
  | none => .error .notText

def decodeLine (line : List UInt8) : Except FileFault String :=
  decodeText ⟨line.toArray⟩

end Tabular
