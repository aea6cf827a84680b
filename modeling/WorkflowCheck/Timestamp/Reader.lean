import WorkflowCheck.Text.Blank
import WorkflowCheck.Timestamp

/-! Timestamps read from text: a date, a time and an offset from universal time. Every field may
have fewer digits than it is written with, and blanks may stand before each of them. -/

namespace WorkflowCheck.Timestamp

inductive Fault where
  | tooShort
  | invalid
  | outOfRange
  | tooLong
  /-- The moment lies beyond the years that there are. -/
  | impossible
  deriving DecidableEq, Repr

def Fault.message : Fault → String
  | .tooShort => "premature end of input"
  | .invalid => "input contains invalid characters"
  | .outOfRange => "input is out of range"
  | .tooLong => "trailing input"
  | .impossible => "no possible date and time matching input"

def wordLimit : Nat := Nat.pow 2 63

def yearLimit : Int := Nat.pow 2 31

/-- A number of one digit up to `width` digits. -/
def number (width : Nat) (cs : List Char) : Except Fault (Nat × List Char) :=
  let digits := (cs.take width).takeWhile Char.isDigit
  match cs, (Text.natural? 10 digits) with
  | [], _ => .error .tooShort
  | _, none => .error .invalid
  | cs, some n => if n < wordLimit then .ok (n, cs.drop digits.length) else .error .outOfRange

/-- A field of two digits, blanks before it skipped. -/
def field (low high : Nat) (cs : List Char) : Except Fault (Nat × List Char) := do
  let (n, rest) ← number 2 (Text.trimStart cs)
  if low ≤ n && n ≤ high then .ok (n, rest) else .error .outOfRange

/-- Four digits, or any number of them after a sign. -/
def yearField (cs : List Char) : Except Fault (Int × List Char) := do
  let (n, rest) ← (match Text.trimStart cs with
    | '-' :: cs => (number cs.length cs).map fun (n, rest) => (-(n : Int), rest)
    | '+' :: cs => (number cs.length cs).map fun (n, rest) => ((n : Int), rest)
    | cs => (number 4 cs).map fun (n, rest) => ((n : Int), rest))
  if -yearLimit ≤ n && n < yearLimit then .ok (n, rest) else .error .outOfRange

def separator (c : Char) (cs : List Char) : Except Fault (List Char) :=
  match Text.trimStart cs with
  | [] => .error .tooShort
  | d :: rest => if d = c then .ok rest else .error .invalid

/-- The fraction of a second, in nanoseconds. Digits after the ninth are dropped. -/
def fraction : List Char → Except Fault (Nat × List Char)
  | '.' :: cs => do
    let (n, rest) ← number 9 cs
    .ok (n * Nat.pow 10 (9 - (cs.length - rest.length)), rest.dropWhile Char.isDigit)
  | cs => .ok (0, cs)

def twoDigits : List Char → Except Fault (Nat × Nat × List Char)
  | a :: b :: rest =>
    if a.isDigit && b.isDigit then .ok (Text.hexDigitValue a, Text.hexDigitValue b, rest)
    else .error .invalid
  | [a] => .error (if a.utf8Size = 1 then .tooShort else .invalid)
  | [] => .error .tooShort

def offsetSign : List Char → Except Fault (Int × List Char)
  | [] => .error .tooShort
  | '+' :: rest => .ok (1, rest)
  | '-' :: rest => .ok (-1, rest)
  | '\u2212' :: rest => .ok (-1, rest)
  | _ => .error .invalid

def numericOffset (cs : List Char) : Except Fault (Int × List Char) := do
  let (sign, cs) ← offsetSign cs
  let (h, h', cs) ← twoDigits cs
  let (m, m', cs) ← twoDigits (cs.dropWhile fun c => c == ':' || Text.isSpace c)
  if m ≥ 6 then .error .outOfRange
  .ok (sign * ((h * 10 + h') * 3600 + (m * 10 + m') * 60 : Nat), cs)

def isUtcMark (cs : List Char) : Bool := (cs.take 3).map Char.toUpper == ['U', 'T', 'C']

def offset (cs : List Char) : Except Fault (Int × List Char) :=
  let cs := Text.trimStart cs
  if isUtcMark cs then .ok (0, cs.drop 3)
  else match cs with
    | 'Z' :: rest => .ok (0, rest)
    | 'z' :: rest => .ok (0, rest)
    | cs => numericOffset cs

def dateTimeMark : List Char → Except Fault (List Char)
  | [] => .error .tooShort
  | c :: rest => if c == 'T' || c == 't' || c == ' ' then .ok rest else .error .invalid

/-- The time on its own day, before an offset is taken off. The sixtieth second is a leap one. -/
def localTime (year : Int) (month day hour minute second nanosecond : Nat) : Timestamp :=
  if second = 60 then
    ⟨year, month, day, hour * 3600 + minute * 60 + 59, 1000000000 + nanosecond⟩
  else ⟨year, month, day, hour * 3600 + minute * 60 + second, nanosecond⟩

def inUniversalTime (t : Timestamp) (offset : Int) : Except Fault Timestamp :=
  if !isYear t.year || t.day > daysIn t.year t.month then .error .outOfRange
  else if offset.natAbs ≥ daySeconds then .error .outOfRange
  else
    let u := t.earlier offset
    if isYear u.year then .ok u else .error .impossible

def parse (text : String) : Except Fault Timestamp := do
  let (year, cs) ← yearField text.toList
  let (month, cs) ← field 1 12 (← separator '-' cs)
  let (day, cs) ← field 1 31 (← separator '-' cs)
  let (hour, cs) ← field 0 23 (← dateTimeMark cs)
  let (minute, cs) ← field 0 59 (← separator ':' cs)
  let (second, cs) ← field 0 60 (← separator ':' cs)
  let (nanosecond, cs) ← fraction cs
  let (offset, cs) ← offset cs
  if !(Text.trimStart cs).isEmpty then .error .tooLong
  inUniversalTime (localTime year month day hour minute second nanosecond) offset

end WorkflowCheck.Timestamp
