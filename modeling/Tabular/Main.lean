import Tabular.CommandLine

namespace Tabular

def FileFault.ofIO (e : IO.Error) : FileFault :=
  match e with
  | .noFileOrDirectory .. => .notFound
  | .inappropriateType _ code _ => if code = 21 then .isDirectory else .notDirectory
  | fault => .other (toString fault)

def attempt (action : IO α) : IO (Except FileFault α) := do
  try
    return .ok (← action)
  catch e =>
    return .error (.ofIO e)

instance : Host IO where
  input := do (← IO.getStdin).readBinToEnd
  read name := attempt (IO.FS.readBinFile name)
  write name content := attempt (IO.FS.writeBinFile name content)
  print text := attempt do
    let output ← IO.getStdout
    output.putStr text
    output.flush
  flush := attempt do (← IO.getStdout).flush

end Tabular

def main (arguments : List String) : IO UInt32 := do
  Tabular.CommandLine.start arguments (← IO.getEnv "MINIDB_DATA_DIR")
