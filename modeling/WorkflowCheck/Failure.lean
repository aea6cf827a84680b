import WorkflowCheck.Text.Utf8

/-! Why files or streams could not be used, and why a run of all fixtures was given up. -/

namespace WorkflowCheck

inductive IoFault where
  | notFound
  | occupied
  | notADirectory
  | isADirectory
  | nameTooLong
  | tooManyLinks
  /-- A path holds the byte that ends paths. -/
  | zeroByte
  | notText
  /-- A stream takes no more bytes. -/
  | full
  | other (text : String)
  deriving DecidableEq, Repr

def IoFault.message : IoFault → String
  | .notFound => "No such file or directory (os error 2)"
  | .occupied => "File exists (os error 17)"
  | .notADirectory => "Not a directory (os error 20)"
  | .isADirectory => "Is a directory (os error 21)"
  | .nameTooLong => "File name too long (os error 36)"
  | .tooManyLinks => "Too many levels of symbolic links (os error 40)"
  | .zeroByte => "file name contained an unexpected NUL byte"
  | .notText => "stream did not contain valid UTF-8"
  | .full => "sink full"
  | .other text => text

inductive Failure where
  | io (path : Bytes) (cause : IoFault)
  | notADirectory (root : Bytes)
  | missingDocument (directory : Bytes)
  | serialization (reason : String)
  | output (cause : IoFault)
  deriving DecidableEq, Repr

namespace Failure

def message : Failure → String
  | .io path cause => "I/O error at " ++ Text.display path ++ ": " ++ cause.message
  | .notADirectory root => "Fixture root is not a directory: " ++ Text.display root
  | .missingDocument directory =>
    "No .yml or .yaml document found in " ++ Text.display directory
  | .serialization reason => "Serialization error: " ++ reason
  | .output cause => "Output error: " ++ cause.message

def cause? : Failure → Option String
  | .io _ cause => some cause.message
  | .notADirectory _ | .missingDocument _ => none
  | .serialization reason => some reason
  | .output cause => some cause.message

end Failure

end WorkflowCheck
