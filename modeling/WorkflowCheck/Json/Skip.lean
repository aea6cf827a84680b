import WorkflowCheck.Json.Reader

/-! Passing over a value that nobody asked for. Its numbers are not worked out, and it may nest
as deep as it likes. -/

namespace WorkflowCheck.Json.Skip

inductive Bracket where
  | array
  | object
  deriving DecidableEq, Repr

def Bracket.closing : Bracket → Char
  | .array => ']'
  | .object => '\x7d'

def exponent : Read Unit := do
  Read.advance
  if (← Read.peek).any fun c => c == '+' || c == '-' then Read.advance
  if ← Number.atDigit then Read.skipWhile Char.isDigit
  else Read.failAhead .badNumber

def fraction : Read Unit := do
  Read.advance
  if !(← Number.atDigit) then Read.failAhead .badNumber
  Read.skipWhile Char.isDigit
  if ← Number.atExponent then exponent

def number : Read Unit := do
  match ← Read.peek with
  | none => Read.failAhead .badNumber
  | some '0' =>
    Read.advance
    if ← Number.atDigit then Read.failAhead .badNumber
  | some c => if c.isDigit then Read.skipWhile Char.isDigit else Read.failAhead .badNumber
  if (← Read.peek) == some '.' then fraction
  else if ← Number.atExponent then exponent

/-- Passes a scalar, or only the bracket that opens a value. -/
def scalarOrBracket : Read (Option Bracket) := do
  match ← Read.start with
  | none => Read.failAhead .endInValue
  | some 'n' =>
    readNull
    return none
  | some 't' =>
    discard readTrue
    return none
  | some 'f' =>
    discard readFalse
    return none
  | some '"' =>
    Quoted.skip
    return none
  | some '[' =>
    Read.advance
    return some .array
  | some '\x7b' =>
    Read.advance
    return some .object
  | some c =>
    if c = '-' then Read.advance
    else if !c.isDigit then Read.failAhead .noValue
    number
    return none

def key : Read Unit := do
  match ← Read.start with
  | some '"' => Quoted.skip
  | some _ => Read.failAhead .noKey
  | none => Read.failAhead .endInObject
  Read.colon

def missingComma : Bracket → Problem
  | .array => .noCommaOrBracket
  | .object => .noCommaOrBrace

def missingEnd : Bracket → Problem
  | .array => .endInArray
  | .object => .endInObject

/-- Goes on to the next value inside of open brackets, the innermost first. The brackets that
remain open there, none of them if all are closed. -/
def next : Nat → Bool → List Bracket → Read (List Bracket)
  | 0, _, _ => Read.failAhead .endInValue
  | _, _, [] => return []
  | n + 1, afterValue, bracket :: outer => do
    match ← Read.start with
    | none => Read.failAhead (missingEnd bracket)
    | some c =>
      if c = bracket.closing then
        Read.advance
        next n true outer
      else
        if afterValue then
          if c != ',' then Read.failAhead (missingComma bracket)
          Read.advance
        if bracket = .object then key
        return bracket :: outer

def rest : Nat → List Bracket → Read Unit
  | 0, _ => Read.failAhead .endInValue
  | n + 1, brackets => do
    match ← scalarOrBracket with
    | none =>
      let brackets ← next (n + 1) true brackets
      if !brackets.isEmpty then rest n brackets
    | some bracket =>
      let brackets ← next (n + 1) false (bracket :: brackets)
      if !brackets.isEmpty then rest n brackets

def value : Read Unit := do
  rest (← Read.budget) []

end WorkflowCheck.Json.Skip
