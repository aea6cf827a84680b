import WorkflowCheck.Text.Digit

/-! Moments in universal time, to the nanosecond, written with as many groups of three fraction
digits as they need. -/

namespace WorkflowCheck

structure Timestamp where
  year : Int
  month : Nat
  day : Nat
  /-- Seconds since midnight. -/
  second : Nat
  /-- A leap second continues the second before it, from one billion on. -/
  nanosecond : Nat
  deriving DecidableEq, Repr

namespace Timestamp

def leastYear : Int := -262143

def greatestYear : Int := 262142

def isLeapYear (year : Int) : Bool := year % 4 == 0 && (year % 100 != 0 || year % 400 == 0)

def daysIn (year : Int) (month : Nat) : Nat :=
  match month with
  | 2 => if isLeapYear year then 29 else 28
  | 4 | 6 | 9 | 11 => 30
  | _ => 31

def nextDay (t : Timestamp) : Timestamp :=
  if t.day < daysIn t.year t.month then { t with day := t.day + 1 }
  else if t.month < 12 then { t with month := t.month + 1, day := 1 }
  else { t with year := t.year + 1, month := 1, day := 1 }

def previousDay (t : Timestamp) : Timestamp :=
  if 1 < t.day then { t with day := t.day - 1 }
  else if 1 < t.month then { t with month := t.month - 1, day := daysIn t.year (t.month - 1) }
  else { t with year := t.year - 1, month := 12, day := 31 }

def daySeconds : Nat := 86400

def epoch : Timestamp := ⟨1970, 1, 1, 0, 0⟩

def sinceEpoch (seconds nanoseconds : Nat) : Timestamp :=
  { Nat.repeat nextDay (seconds / daySeconds) epoch with
    second := seconds % daySeconds
    nanosecond := nanoseconds }

/-- The moment so many seconds earlier, for less than a day. -/
def earlier (t : Timestamp) (seconds : Int) : Timestamp :=
  let s := (t.second : Int) - seconds
  if s < 0 then previousDay { t with second := (s + daySeconds).toNat }
  else if s < daySeconds then { t with second := s.toNat }
  else nextDay { t with second := (s - daySeconds).toNat }

def isYear (year : Int) : Bool := leastYear ≤ year && year ≤ greatestYear

/-- Years outside of four digits have a sign. -/
def yearText (year : Int) : List Char :=
  if 0 ≤ year && year ≤ 9999 then Text.padded 4 year.toNat
  else (if year < 0 then '-' else '+') :: Text.padded 4 year.natAbs

def fractionText (nanosecond : Nat) : List Char :=
  if nanosecond = 0 then []
  else if nanosecond % 1000000 = 0 then '.' :: Text.padded 3 (nanosecond / 1000000)
  else if nanosecond % 1000 = 0 then '.' :: Text.padded 6 (nanosecond / 1000)
  else '.' :: Text.padded 9 nanosecond

def text (t : Timestamp) : String :=
  let two := Text.padded 2
  String.ofList <|
    yearText t.year ++ '-' :: two t.month ++ '-' :: two t.day ++
      'T' :: two (t.second / 3600) ++ ':' :: two (t.second / 60 % 60) ++
      ':' :: two (t.second % 60 + t.nanosecond / 1000000000) ++
      fractionText (t.nanosecond % 1000000000) ++ ['Z']

end Timestamp

end WorkflowCheck
