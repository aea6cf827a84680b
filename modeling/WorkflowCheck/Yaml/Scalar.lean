import WorkflowCheck.Decimal.Double
import WorkflowCheck.Value
import WorkflowCheck.Yaml.Fault

/-! What the text of a scalar stands for: null, a boolean, a number, or just itself. -/

namespace WorkflowCheck.Yaml.Scalar

def isNullWord (text : String) : Bool := ["null", "Null", "NULL", "~"].contains text

def boolean? (text : String) : Option Bool :=
  if ["true", "True", "TRUE"].contains text then some true
  else if ["false", "False", "FALSE"].contains text then some false
  else none

def startsWithSign (cs : List Char) : Bool := cs.head? == some '+' || cs.head? == some '-'

/-- Several digits of which the first is zero are no number. -/
def isZeroLed (cs : List Char) : Bool :=
  let digits := if startsWithSign cs then cs.tail else cs
  digits.length > 1 && digits.head? == some '0' && digits.all Char.isDigit

def unsigned? : List Char → Option Nat
  | '0' :: 'x' :: digits => Text.natural? 16 digits
  | '0' :: 'o' :: digits => Text.natural? 8 digits
  | '0' :: 'b' :: digits => Text.natural? 2 digits
  | digits => Text.natural? 10 digits

inductive IntegerSize where
  | fits
  | tooLarge
  deriving DecidableEq, Repr

/-- Numbers of 64 bits fit; those of up to 128 bits are integers too. -/
def integer? (cs : List Char) : Option IntegerSize :=
  if isZeroLed cs then none
  else match cs with
    | '-' :: digits =>
      (unsigned? digits).bind fun n =>
        if n ≤ Nat.pow 2 63 then some .fits else if n ≤ Nat.pow 2 127 then some .tooLarge else none
    | _ =>
      (unsigned? (if cs.head? == some '+' then cs.tail else cs)).bind fun n =>
        if n < Nat.pow 2 64 then some .fits else if n < Nat.pow 2 128 then some .tooLarge else none

def isFiniteDecimal (cs : List Char) : Bool :=
  match Decimal.Literal.parse? cs with
  | some literal => (Decimal.Double.ofLiteral literal).isFinite
  | none => false

def isInfinity (text : String) : Bool :=
  [".inf", ".Inf", ".INF", "+.inf", "+.Inf", "+.INF", "-.inf", "-.Inf", "-.INF"].contains text

def isNotANumber (text : String) : Bool := [".nan", ".NaN", ".NAN"].contains text

/-- A number with a fraction or an exponent. Those that are not finite have no value. -/
def float? (text : String) : Option Value :=
  if isInfinity text || isNotANumber text then some .null
  else if isFiniteDecimal text.toList then some (.number text)
  else none

def integerValue? (text : String) : Option (Except Misfit Value) :=
  match integer? text.toList with
  | some .fits => some (.ok (.number text))
  | some .tooLarge => some (.error .numberRange)
  | none => none

def plain (text : String) : Except Misfit Value :=
  if text.isEmpty || isNullWord text then .ok .null
  else match boolean? text, integerValue? text with
    | some b, _ => .ok (.boolean b)
    | none, some n => n
    | none, none =>
      if isZeroLed text.toList then .ok (.string text)
      else .ok ((float? text).getD (.string text))

inductive CoreTag where
  | null
  | boolean
  | integer
  | float
  deriving DecidableEq, Repr

def coreTag? (tag : Bytes) : Option CoreTag :=
  if tag = Text.encode "tag:yaml.org,2002:null" then some .null
  else if tag = Text.encode "tag:yaml.org,2002:bool" then some .boolean
  else if tag = Text.encode "tag:yaml.org,2002:int" then some .integer
  else if tag = Text.encode "tag:yaml.org,2002:float" then some .float
  else none

/-- A scalar of which a type is asked, however it is written. -/
def typed (text : String) : CoreTag → Except Misfit Value
  | .null => if isNullWord text then .ok .null else .error (.wrongScalar text "null")
  | .boolean =>
    match boolean? text with
    | some b => .ok (.boolean b)
    | none => .error (.wrongScalar text "a boolean")
  | .integer => (integerValue? text).getD (.error (.wrongScalar text "an integer"))
  | .float =>
    match float? text with
    | some v => .ok v
    | none => .error (.wrongScalar text "a float")

/-- Whether a tag names a type of its own: it begins with `!`, and the rest is a text. -/
def isCustom : Option Bytes → Bool
  | some (0x21 :: name) => (Text.decode? name).isSome
  | _ => false

def value (tag : Option Bytes) (isPlain : Bool) (text : String) : Except Misfit Value :=
  if isCustom tag then .error .customTag
  else match tag with
    | none => if isPlain then plain text else .ok (.string text)
    | some tag =>
      match coreTag? tag with
      | some core => typed text core
      | none => if tag.head? = some 0x21 && isPlain then plain text else .ok (.string text)

end WorkflowCheck.Yaml.Scalar
