import WorkflowCheck.Json.Number
import WorkflowCheck.Json.Quoted
import WorkflowCheck.Value

/-! JSON texts read as values, with the entries of objects in the order in which they stand and
all repeats kept. Arrays and objects may nest so many levels deep. -/

namespace WorkflowCheck.Json

namespace Read

def hasItem (first : Bool) : Read Bool := do
  match ← start with
  | none => failAhead .endInArray
  | some ']' => return false
  | some c =>
    if first then return true
    if c != ',' then failAhead .noCommaOrBracket
    advance
    match ← start with
    | none => failAhead .endInValue
    | some ']' => failAhead .trailingComma
    | some _ => return true

def hasKey (first : Bool) : Read Bool := do
  match ← start with
  | none => failAhead .endInObject
  | some '\x7d' => return false
  | some c =>
    if first then
      if c = '"' then return true else failAhead .noKey
    if c != ',' then failAhead .noCommaOrBrace
    advance
    match ← start with
    | none => failAhead .endInValue
    | some '\x7d' => failAhead .trailingComma
    | some c => if c = '"' then return true else failAhead .noKey

def itemsFrom {α : Type} (item : Read α) : Nat → Bool → Read (List α)
  | 0, _ => failAhead .endInArray
  | n + 1, first => do
    if ← hasItem first then
      let x ← item
      return x :: (← itemsFrom item n false)
    else return []

def entriesFrom {α : Type} (value : Read α) : Nat → Bool → Read (List (String × α))
  | 0, _ => failAhead .endInObject
  | n + 1, first => do
    if ← hasKey first then
      let key ← Quoted.read
      colon
      let x ← value
      return (key, x) :: (← entriesFrom value n false)
    else return []

def closeArray : Read Unit := do
  match ← start with
  | some ']' => advance
  | some ',' =>
    advance
    if (← start) == some ']' then failAhead .trailingComma else failAhead .trailingCharacters
  | some _ => failAhead .trailingCharacters
  | none => failAhead .endInArray

def closeObject : Read Unit := do
  match ← start with
  | some '\x7d' => advance
  | some ',' => failAhead .trailingComma
  | some _ => failAhead .trailingCharacters
  | none => failAhead .endInObject

/-- Where one comes to when the end of an array is looked for. -/
def arrayEnd (c : Cursor) : Cursor :=
  let c := c.skipBlanks
  match c.rest with
  | ']' :: _ => c.advance
  | ',' :: _ => c.advance.skipBlanks
  | _ => c

def objectEnd (c : Cursor) : Cursor :=
  let c := c.skipBlanks
  match c.rest with
  | '\x7d' :: _ => c.advance
  | _ => c

/-- What stands between brackets. A loose fault in it is placed where its end is looked for. -/
def bracketed {α : Type} (body : Read α) (close : Read Unit) (fallback : Cursor → Cursor) :
    Read α := fun c =>
  match body c.advance with
  | .error (.loose problem c) => .error (.placed problem (fallback c).offset)
  | .error stop => .error stop
  | .ok (x, c) => (do close; return x : Read α) c

def inArray {α : Type} (body : Read α) : Read α := bracketed body closeArray arrayEnd

def inObject {α : Type} (body : Read α) : Read α := bracketed body closeObject objectEnd

def array {α : Type} (item : Read α) : Read (List α) :=
  inArray do itemsFrom item (← budget) true

def object {α : Type} (value : Read α) : Read (List (String × α)) :=
  inObject do entriesFrom value (← budget) true

end Read

def nestingLimit : Nat := 127

def readNull : Read Unit := do
  Read.advance
  Read.word ['u', 'l', 'l']

def readTrue : Read Bool := do
  Read.advance
  Read.word ['r', 'u', 'e']
  return true

def readFalse : Read Bool := do
  Read.advance
  Read.word ['a', 'l', 's', 'e']
  return false

def readNumber : Read Number := do
  if (← Read.peek) == some '-' then
    Read.advance
    Number.read false
  else Number.read true

/-- A value that is neither an array nor an object. -/
def readScalar : Read Value := do
  match ← Read.start with
  | none => Read.failAhead .endInValue
  | some 'n' =>
    readNull
    return .null
  | some 't' => return .boolean (← readTrue)
  | some 'f' => return .boolean (← readFalse)
  | some '"' => return .string (← Quoted.read)
  | some c =>
    if c = '-' || c.isDigit then return .number (← readNumber).literal
    else Read.failAhead .noValue

/-- A value in which so many levels may be opened. -/
def readValue : Nat → Read Value
  | 0 => do
    match ← Read.start with
    | some '[' => Read.failAhead .tooDeep
    | some '\x7b' => Read.failAhead .tooDeep
    | _ => readScalar
  | n + 1 => do
    match ← Read.start with
    | some '[' => return .array (← Read.array (readValue n))
    | some '\x7b' => return .object (← Read.object (readValue n))
    | _ => readScalar

/-- A whole text, in which nothing but blanks may follow. -/
def readAll {α : Type} (read : Read α) (text : String) : Except Fault α :=
  let whole : Read α := do
    let x ← read
    if (← Read.start).isSome then Read.failAhead .trailingCharacters
    return x
  match whole.run ⟨text.toList, 0⟩ with
  | .ok (x, _) => .ok x
  | .error (.placed problem offset) => .error ⟨problem, some (Fault.lineAndColumn text offset)⟩
  | .error (.loose problem _) => .error ⟨problem, none⟩

def parse (text : String) : Except Fault Value := readAll (readValue nestingLimit) text

end WorkflowCheck.Json
