import WorkflowCheck.Json.Cursor

/-! Numbers of JSON. Natural numbers of 64 bits and negative integers of 63 bits are kept as they
are, all others become doubles: nineteen digits or so are taken as a natural number, which is
rounded and then scaled by powers of ten. -/

namespace WorkflowCheck.Json.Number

def naturalLimit : Nat := Nat.pow 2 64

def negativeLimit : Nat := Nat.pow 2 63

def exponentLimit : Nat := Nat.pow 2 31

def digitValue (c : Char) : Nat := Text.hexDigitValue c

/-- The number that digits go on to spell as long as it stays below a limit, and how many of them
were taken. -/
def gather (limit : Nat) : Nat → List Char → Nat × Nat
  | n, [] => (n, 0)
  | n, c :: cs =>
    if c.isDigit && n * 10 + digitValue c < limit then
      let (m, count) := gather limit (n * 10 + digitValue c) cs
      (m, count + 1)
    else (n, 0)

def digits (limit start : Nat) : Read (Nat × Nat) := do
  let c ← get
  let (n, count) := gather limit start c.rest
  set (⟨c.rest.drop count, c.offset + count⟩ : Cursor)
  return (n, count)

def atDigit : Read Bool := return (← Read.peek).any Char.isDigit

def atExponent : Read Bool := return (← Read.peek).any fun c => c == 'e' || c == 'E'

def greatestPower : Nat := 308

/-- Divides by a power of ten, in several steps where it is a large one. -/
def scaleDown (x : Decimal.Double) (power : Nat) : Decimal.Double :=
  if power ≤ greatestPower then x.overPower power
  else if x.isZero then x
  else scaleDown (x.overPower greatestPower) (power - greatestPower)
termination_by power
decreasing_by simp [greatestPower] at *; omega

def scale? (significand : Nat) (exponent : Int) : Option Decimal.Double :=
  let x := Decimal.Double.ofNat significand
  if exponent < 0 then some (scaleDown x (-exponent).toNat)
  else if significand = 0 then some x
  else if greatestPower < exponent.toNat then none
  else
    let y := x.timesPower exponent.toNat
    if y.isFinite then some y else none

def signed (positive : Bool) (x : Decimal.Double) : Decimal.Double :=
  if positive then x else x.negate

def double (positive : Bool) (significand : Nat) (exponent : Int) : Read Decimal.Double := do
  match scale? significand exponent with
  | some x => return signed positive x
  | none => Read.fail .numberRange

def exponentSign : Read Bool := do
  match ← Read.peek with
  | some '+' =>
    Read.advance
    return true
  | some '-' =>
    Read.advance
    return false
  | _ => return true

/-- An exponent, which scales by more than the places already counted. One that is out of all
bounds makes zero or no number. -/
def exponent (positive : Bool) (significand : Nat) (places : Int) : Read Decimal.Double := do
  Read.advance
  let raises ← exponentSign
  match ← Read.peek with
  | none => Read.fail .endInValue
  | some c =>
    if !c.isDigit then Read.failAhead .badNumber
    let (n, _) ← digits exponentLimit 0
    if ← atDigit then
      Read.advance
      if significand != 0 && raises then Read.fail .numberRange
      Read.skipWhile Char.isDigit
      return signed positive (.ofNat 0)
    else double positive significand (if raises then places + n else places - n)

def afterDigits (positive : Bool) (significand : Nat) (places : Int) : Read Decimal.Double := do
  if ← atExponent then exponent positive significand places
  else double positive significand places

/-- A fraction. Digits that do not fit are passed over. -/
def fraction (positive : Bool) (significand : Nat) (places : Int) : Read Decimal.Double := do
  Read.advance
  let (n, count) ← digits naturalLimit significand
  if ← atDigit then
    Read.skipWhile Char.isDigit
  else if count = 0 then
    match ← Read.peek with
    | none => Read.failAhead .endInValue
    | some _ => Read.failAhead .badNumber
  afterDigits positive n (places - count)

/-- An integer that does not fit: each further digit counts as a place. -/
def longInteger (positive : Bool) (significand : Nat) : Read Decimal.Double := do
  let before := (← get).offset
  Read.skipWhile Char.isDigit
  let places := (← get).offset - before
  if (← Read.peek) == some '.' then fraction positive significand places
  else afterDigits positive significand places

def ofInteger (positive : Bool) (n : Nat) : Number :=
  if positive then .natural n
  else if n = 0 || negativeLimit < n then .float (Decimal.Double.ofNat n).negate
  else .negative n

def afterInteger (positive : Bool) (n : Nat) : Read Number := do
  if (← Read.peek) == some '.' then return .float (← fraction positive n 0)
  else if ← atExponent then return .float (← exponent positive n 0)
  else return ofInteger positive n

def read (positive : Bool) : Read Number := do
  match ← Read.peek with
  | none => Read.fail .endInValue
  | some '0' =>
    Read.advance
    if ← atDigit then Read.failAhead .badNumber
    else afterInteger positive 0
  | some c =>
    if !c.isDigit then Read.failAhead .badNumber
    let (n, _) ← digits naturalLimit 0
    if ← atDigit then return .float (← longInteger positive n)
    else afterInteger positive n

end WorkflowCheck.Json.Number
