import WorkflowCheck.CommandLine.Similarity
import WorkflowCheck.Text.Utf8

/-! Commands as their users see them: the options that they know, and what is said about
arguments that they do not understand. -/

namespace WorkflowCheck.CommandLine

inductive ValueKind where
  /-- Any bytes but none at all. -/
  | path
  | text
  | choice (names : List String)
  deriving DecidableEq, Repr

inductive Role where
  | flag
  | valued (kind : ValueKind) (placeholder : String)
  | help
  | version
  deriving DecidableEq, Repr

structure Parameter where
  long : String
  short : Option Char
  role : Role
  deriving DecidableEq, Repr

namespace Parameter

def display (p : Parameter) : String :=
  match p.role with
  | .valued _ placeholder => "--" ++ p.long ++ " <" ++ placeholder ++ ">"
  | _ => "--" ++ p.long

def choices (p : Parameter) : List String :=
  match p.role with
  | .valued (.choice names) _ => names
  | _ => []

end Parameter

structure Command where
  name : String
  parameters : List Parameter
  /-- The name of the one argument that is no option, if there is one. It is required. -/
  operand : Option String
  shortHelp : String
  longHelp : String
  version : String

namespace Command

def byLong? (c : Command) (long : String) : Option Parameter :=
  c.parameters.find? (·.long == long)

def byShort? (c : Command) (short : Char) : Option Parameter :=
  c.parameters.find? (·.short == some short)

def operandText (c : Command) : List String := (c.operand.map fun o => "<" ++ o ++ ">").toList

/-- The line of usage. After arguments that could be used it names their options, otherwise it only
says that there are some. -/
def usage (c : Command) (used : Option (List Parameter)) : String :=
  let options := match used with
    | none => ["[OPTIONS]"]
    | some parameters => parameters.eraseDups.map Parameter.display
  "Usage: " ++ " ".intercalate (c.name :: options ++ c.operandText)

end Command

inductive UsageFault where
  | unexpected (argument : String) (similar : Option Parameter) (asOperand : Bool)
      (used : Option (List Parameter))
  | unexpectedValue (value : String) (parameter : Parameter) (used : List Parameter)
  | repeated (parameter : Parameter)
  | missingOperand (used : List Parameter)
  /-- The option or operand as it is displayed. -/
  | missingValue (display : String) (choices : List String)
  | wrongChoice (value : String) (parameter : Parameter)
  | notText
  deriving DecidableEq, Repr

namespace UsageFault

def choicesLine : List String → String
  | [] => ""
  | names => "\n  [possible values: " ++ ", ".intercalate names ++ "]"

def what (c : Command) : UsageFault → String
  | .unexpected argument .. => "unexpected argument '" ++ argument ++ "' found"
  | .unexpectedValue value parameter _ =>
    "unexpected value '" ++ value ++ "' for '" ++ parameter.display ++
      "' found; no more were expected"
  | .repeated parameter =>
    "the argument '" ++ parameter.display ++ "' cannot be used multiple times"
  | .missingOperand _ =>
    "the following required arguments were not provided:" ++
      String.join (c.operandText.map ("\n  " ++ ·))
  | .missingValue display choices =>
    "a value is required for '" ++ display ++ "' but none was supplied" ++ choicesLine choices
  | .wrongChoice value parameter =>
    "invalid value '" ++ value ++ "' for '" ++ parameter.display ++ "'" ++
      choicesLine parameter.choices
  | .notText => "invalid UTF-8 was detected in one or more arguments"

def tip? : UsageFault → Option String
  | .unexpected argument similar asOperand _ =>
    match similar, asOperand with
    | some p, _ => some ("a similar argument exists: '--" ++ p.long ++ "'")
    | none, true =>
      some ("to pass '" ++ argument ++ "' as a value, use '-- " ++ argument ++ "'")
    | none, false => none
  | .wrongChoice value parameter =>
    (Likeness.best? value parameter.choices).map fun name =>
      "a similar value exists: '" ++ name ++ "'"
  | _ => none

def usage? (c : Command) : UsageFault → Option String
  | .unexpected _ _ _ used => some (c.usage used)
  | .unexpectedValue _ _ used | .missingOperand used => some (c.usage (some used))
  | .repeated _ | .notText => some (c.usage none)
  | .missingValue .. | .wrongChoice .. => none

def message (c : Command) (fault : UsageFault) : String :=
  "\n\n".intercalate
    (["error: " ++ fault.what c] ++ (fault.tip?.map ("  tip: " ++ ·)).toList ++
      (fault.usage? c).toList ++ ["For more information, try '--help'.\n"])

end UsageFault

end WorkflowCheck.CommandLine
