import Tabular.SaveFile

namespace Tabular

inductive FileFault where
  | notFound
  | notDirectory
  | isDirectory
  | nameTooLong
  | zeroInName
  | notText
  | closed
  | other (message : String)
deriving DecidableEq, Repr

def FileFault.message : FileFault → String
  | .notFound => "No such file or directory (os error 2)"
  | .notDirectory => "Not a directory (os error 20)"
  | .isDirectory => "Is a directory (os error 21)"
  | .nameTooLong => "File name too long (os error 36)"
  | .zeroInName => "file name contained an unexpected NUL byte"
  | .notText => "stream did not contain valid UTF-8"
  | .closed => "sink is closed"
  | .other message => message

inductive Failure where
  | engine (error : Error)
  | saveFile (fault : SaveFile.Fault)
  | file (fault : FileFault)
deriving DecidableEq, Repr

def Failure.message : Failure → String
  | .engine error => error.message
  | .saveFile fault => fault.message
  | .file fault => fault.message

end Tabular
