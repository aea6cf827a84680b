import WorkflowCheck.Decimal.Literal

/-! Numbers of double precision, as signed significands of 53 bits that a power of two scales.
Every operation gives the double nearest to the exact result, a tie going to the even one. -/

namespace WorkflowCheck.Decimal

/-- The quotient rounded to the nearest integer, a tie to the even one. -/
def roundDiv (num den : Nat) : Nat :=
  let q := num / den
  let r := num % den
  if 2 * r < den then q
  else if 2 * r = den then q + q % 2
  else q + 1

inductive Double where
  /-- `significand * 2 ^ exponent`, negated or not. Zero has a sign too. -/
  | finite (negative : Bool) (significand : Nat) (exponent : Int)
  | infinite (negative : Bool)
  | notANumber
  deriving DecidableEq, Repr

namespace Double

def precision : Nat := 53

def leastExponent : Int := -1074

def greatestExponent : Int := 971

/-- The greatest `e` with `2 ^ e ≤ num / den`, for numbers that are not zero. -/
def ratioLog2 (num den : Nat) : Int :=
  let e : Int := num.log2 - den.log2
  if num * Nat.pow 2 (-e).toNat < den * Nat.pow 2 e.toNat then e - 1 else e

def ofRatio (negative : Bool) (num den : Nat) : Double :=
  if num = 0 then .finite negative 0 leastExponent
  else
    let e := max leastExponent (ratioLog2 num den - 52)
    let m := roundDiv (num * Nat.pow 2 (-e).toNat) (den * Nat.pow 2 e.toNat)
    let (m, e) := if m < Nat.pow 2 precision then (m, e) else (m / 2, e + 1)
    if e ≤ greatestExponent then .finite negative m e else .infinite negative

def ofNat (n : Nat) : Double := ofRatio false n 1

/-- The double nearest to a decimal number. Powers of ten that can only lead to zero or infinity
are not worked out. -/
def ofLiteral (literal : Literal) : Double :=
  let size := literal.exponent + (Text.decimalDigits literal.digits).length
  if literal.digits = 0 || size < -400 then .finite literal.negative 0 leastExponent
  else if size > 400 then .infinite literal.negative
  else
    ofRatio literal.negative (literal.digits * Nat.pow 10 literal.exponent.toNat)
      (Nat.pow 10 (-literal.exponent).toNat)

def isFinite : Double → Bool
  | .finite .. => true
  | _ => false

def isZero : Double → Bool
  | .finite _ m _ => m == 0
  | _ => false

def negate : Double → Double
  | .finite negative m e => .finite (!negative) m e
  | .infinite negative => .infinite (!negative)
  | .notANumber => .notANumber

/-- The size of a finite number as a quotient of natural numbers. -/
def ratio (significand : Nat) (exponent : Int) : Nat × Nat :=
  (significand * Nat.pow 2 exponent.toNat, Nat.pow 2 (-exponent).toNat)

/-- Finite numbers times a power of ten that is itself rounded to a double. -/
def timesPower (x : Double) (power : Nat) : Double :=
  match x, ofNat (Nat.pow 10 power) with
  | .finite negative m e, .finite _ m' e' =>
    let (num, den) := ratio (m * m') (e + e')
    ofRatio negative num den
  | x, _ => x

def overPower (x : Double) (power : Nat) : Double :=
  match x, ofNat (Nat.pow 10 power) with
  | .finite negative m e, .finite _ m' e' =>
    let (num, den) := ratio m (e - e')
    ofRatio negative num (den * m')
  | x, _ => x

def special? (cs : List Char) : Option Double :=
  let (negative, word) := match cs with
    | '-' :: rest => (true, rest)
    | '+' :: rest => (false, rest)
    | cs => (false, cs)
  match String.ofList (word.map Char.toLower) with
  | "inf" | "infinity" => some (.infinite negative)
  | "nan" => some .notANumber
  | _ => none

def parse? (text : String) : Option Double :=
  match special? text.toList with
  | some x => some x
  | none => (Literal.parse? text.toList).map ofLiteral

end Double

end WorkflowCheck.Decimal
