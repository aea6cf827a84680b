import WorkflowCheck.Json.Skip

/-! Typed values read straight from JSON text. A record may be an object, whose unknown keys are
passed over, or an array of its fields in order. -/

namespace WorkflowCheck.Json

/-- Reads a value in which so many levels may be opened. -/
abbrev Decoder (α : Type) := Nat → Read α

namespace Decoder

/-- The kind of a value that was not expected. Scalars are read, brackets are left. -/
def found : Read Found := do
  match ← Read.peek with
  | some 'n' =>
    readNull
    return .null
  | some 't' => return .boolean (← readTrue)
  | some 'f' => return .boolean (← readFalse)
  | some '"' => return .string (← Quoted.read)
  | some '[' => return .array
  | some '\x7b' => return .object
  | some c =>
    if c = '-' || c.isDigit then return .number (← readNumber)
    else Read.failAhead .noValue
  | none => Read.failAhead .noValue

def mismatch {α : Type} (expected : String) : Read α := do
  Read.fail (.wrongType (← found) expected)

def begin : Read Char := do
  match ← Read.start with
  | some c => return c
  | none => Read.failAhead .endInValue

def text {α : Type} (expected : String) (convert : String → Except Problem α) : Decoder α :=
  fun _ => do
    if (← begin) = '"' then
      match convert (← Quoted.read) with
      | .ok x => return x
      | .error problem => Read.fail problem
    else mismatch expected

def boolean : Decoder Bool := fun _ => do
  match ← begin with
  | 't' => readTrue
  | 'f' => readFalse
  | _ => mismatch "a boolean"

def number (expected : String) : Read Number := do
  let c ← begin
  if c = '-' || c.isDigit then readNumber else mismatch expected

def word : Decoder UInt64 := fun _ => do
  match ← number "usize" with
  | .natural n => return UInt64.ofNat n
  | .negative n => Read.fail (.wrongValue (.number (.negative n)) "usize")
  | .float x => Read.fail (.wrongType (.number (.float x)) "usize")

def double : Decoder Decimal.Double := fun _ => do
  match ← number "f64" with
  | .natural n => return .ofNat n
  | .negative n => return (Decimal.Double.ofNat n).negate
  | .float x => return x

def null : Read Unit := do
  if (← begin) = 'n' then readNull else mismatch "unit"

def name {α : Type} (known : List (String × α)) (s : String) : Except Problem α :=
  match known.lookup s with
  | some x => .ok x
  | none => .error (.unknownName s (known.map (·.1)))

/-- A name, or an object with null under the name. -/
def choice {α : Type} (known : List (String × α)) : Decoder α := fun depth => do
  match ← begin with
  | '"' => text "" (name known) depth
  | '\x7b' =>
    if depth = 0 then Read.failAhead .tooDeep
    Read.advance
    let x ← text "variant identifier" (name known) depth
    Read.colon
    null
    match ← Read.start with
    | some '\x7d' =>
      Read.advance
      return x
    | some _ => Read.fail .noValue
    | none => Read.fail .endInObject
  | _ => Read.failAhead .noValue

def list {α : Type} (item : Decoder α) : Decoder (List α)
  | depth => do
    if (← begin) = '[' then
      match depth with
      | 0 => Read.failAhead .tooDeep
      | inner + 1 => Read.array (item inner)
    else mismatch "a sequence"

end Decoder

/-- A field of a record, as something that fills a part of an unfinished record. -/
structure Field (σ : Type) where
  key : String
  required : Bool
  isSet : σ → Bool
  read : σ → Decoder σ

structure RecordShape (σ α : Type) where
  name : String
  empty : σ
  fields : List (Field σ)
  /-- The record, once all fields that it requires are set. -/
  finish : σ → Option α

namespace RecordShape

variable {σ α : Type}

def expected (shape : RecordShape σ α) : String := "struct " ++ shape.name

def expectedLength (shape : RecordShape σ α) : String :=
  let count := shape.fields.length
  s!"{shape.expected} with {count} element" ++ (if count = 1 then "" else "s")

def missing (shape : RecordShape σ α) (s : σ) : String :=
  ((shape.fields.find? fun f => f.required && !f.isSet s).map (·.key)).getD ""

def fromEntries (shape : RecordShape σ α) (depth : Nat) : Nat → Bool → σ → Read σ
  | 0, _, _ => Read.failAhead .endInObject
  | n + 1, first, s => do
    if ← Read.hasKey first then
      let key ← Quoted.read
      match shape.fields.find? (·.key == key) with
      | none =>
        Read.colon
        Skip.value
        shape.fromEntries depth n false s
      | some field =>
        if field.isSet s then Read.failLoose (.repeatedField key)
        Read.colon
        shape.fromEntries depth n false (← field.read s depth)
    else return s

def fromItems (shape : RecordShape σ α) (depth : Nat) : Nat → List (Field σ) → σ → Read σ
  | _, [], s => return s
  | count, field :: rest, s => do
    if ← Read.hasItem (count == 0) then
      shape.fromItems depth (count + 1) rest (← field.read s depth)
    else if field.required then Read.failLoose (.wrongLength count shape.expectedLength)
    else shape.fromItems depth count rest s

def complete (shape : RecordShape σ α) (s : σ) : Read α := do
  match shape.finish s with
  | some x => return x
  | none => Read.failLoose (.missingField (shape.missing s))

def decode (shape : RecordShape σ α) : Decoder α := fun depth => do
  match ← Decoder.begin, depth with
  | '[', 0 => Read.failAhead .tooDeep
  | '\x7b', 0 => Read.failAhead .tooDeep
  | '[', inner + 1 =>
    Read.inArray do shape.complete (← shape.fromItems inner 0 shape.fields shape.empty)
  | '\x7b', inner + 1 =>
    Read.inObject do shape.complete (← shape.fromEntries inner (← Read.budget) true shape.empty)
  | _, _ => Decoder.mismatch shape.expected

end RecordShape

def decode {α : Type} (decoder : Decoder α) (text : String) : Except Fault α :=
  readAll (decoder nestingLimit) text

end WorkflowCheck.Json
