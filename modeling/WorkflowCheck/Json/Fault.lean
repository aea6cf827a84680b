import WorkflowCheck.Decimal.Shortest
import WorkflowCheck.Text.Quoted
import WorkflowCheck.Text.Utf8

/-! Why a text is not the JSON of what was asked for, and where. -/

namespace WorkflowCheck.Json

inductive Number where
  | natural (n : Nat)
  | negative (n : Nat)
  | float (x : Decimal.Double)
  deriving DecidableEq, Repr

def Number.literal : Number → String
  | .natural n => toString n
  | .negative n => "-" ++ toString n
  | .float x => x.shortest?.getD "null"

inductive Found where
  | null
  | boolean (value : Bool)
  | number (value : Number)
  | string (value : String)
  | array
  | object
  deriving DecidableEq, Repr

def Found.text : Found → String
  | .null => "null"
  | .boolean b => "boolean \x60" ++ (if b then "true" else "false") ++ "\x60"
  | .number (.float x) => "floating point \x60" ++ (Number.float x).literal ++ "\x60"
  | .number n => "integer \x60" ++ n.literal ++ "\x60"
  | .string s => "string " ++ Text.quoted s
  | .array => "sequence"
  | .object => "map"

inductive Problem where
  | endInArray
  | endInObject
  | endInString
  | endInValue
  | noColon
  | noCommaOrBracket
  | noCommaOrBrace
  | badWord
  | noValue
  | badEscape
  | badNumber
  | numberRange
  | controlCharacter
  | noKey
  | loneSurrogate
  | brokenSurrogatePair
  | trailingComma
  | trailingCharacters
  | tooDeep
  | wrongType (found : Found) (expected : String)
  | wrongValue (found : Found) (expected : String)
  | wrongLength (count : Nat) (expected : String)
  | unknownName (name : String) (known : List String)
  | repeatedField (key : String)
  | missingField (key : String)
  /-- A value of one of several shapes that has none of them. -/
  | noShape (name : String)
  | badText (reason : String)
  deriving DecidableEq, Repr

def ticked (name : String) : String := "\x60" ++ name ++ "\x60"

def Problem.text : Problem → String
  | .endInArray => "EOF while parsing a list"
  | .endInObject => "EOF while parsing an object"
  | .endInString => "EOF while parsing a string"
  | .endInValue => "EOF while parsing a value"
  | .noColon => "expected " ++ ticked ":"
  | .noCommaOrBracket => "expected " ++ ticked "," ++ " or " ++ ticked "]"
  | .noCommaOrBrace => "expected " ++ ticked "," ++ " or " ++ ticked "\x7d"
  | .badWord => "expected ident"
  | .noValue => "expected value"
  | .badEscape => "invalid escape"
  | .badNumber => "invalid number"
  | .numberRange => "number out of range"
  | .controlCharacter => "control character (\\u0000-\\u001F) found while parsing a string"
  | .noKey => "key must be a string"
  | .loneSurrogate => "lone leading surrogate in hex escape"
  | .brokenSurrogatePair => "unexpected end of hex escape"
  | .trailingComma => "trailing comma"
  | .trailingCharacters => "trailing characters"
  | .tooDeep => "recursion limit exceeded"
  | .wrongType found expected => "invalid type: " ++ found.text ++ ", expected " ++ expected
  | .wrongValue found expected => "invalid value: " ++ found.text ++ ", expected " ++ expected
  | .wrongLength count expected => s!"invalid length {count}, expected {expected}"
  | .unknownName name known =>
    "unknown variant " ++ ticked name ++ ", expected " ++
      " or ".intercalate (known.map ticked)
  | .repeatedField key => "duplicate field " ++ ticked key
  | .missingField key => "missing field " ++ ticked key
  | .noShape name => "data did not match any variant of untagged enum " ++ name
  | .badText reason => reason

/-- A problem, with its place unless nobody knows it. -/
structure Fault where
  problem : Problem
  /-- A line counted from one, and how many bytes of it come before the place. -/
  location : Option (Nat × Nat)
  deriving DecidableEq, Repr

namespace Fault

def lineAndColumn (text : String) (offset : Nat) : Nat × Nat :=
  let before := (Text.encode text).take offset
  (before.count 0x0A + 1, (before.reverse.takeWhile (· != 0x0A)).length)

def message (fault : Fault) : String :=
  match fault.location with
  | none => fault.problem.text
  | some (line, column) => s!"{fault.problem.text} at line {line} column {column}"

end Fault

end WorkflowCheck.Json
