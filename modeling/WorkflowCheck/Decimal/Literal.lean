import WorkflowCheck.Text.Digit

/-! Decimal numbers as they are written: a sign, digits on either side of a point, an exponent. -/

namespace WorkflowCheck.Decimal

/-- The number is `digits * 10 ^ exponent`, negated or not. -/
structure Literal where
  negative : Bool
  digits : Nat
  exponent : Int
  deriving DecidableEq, Repr

namespace Literal

def exponent? : List Char → Option Int
  | [] => some 0
  | e :: rest =>
    if e != 'e' && e != 'E' then none
    else match rest with
      | '-' :: digits => (Text.natural? 10 digits).map fun n => -Int.ofNat n
      | '+' :: digits => (Text.natural? 10 digits).map Int.ofNat
      | digits => (Text.natural? 10 digits).map Int.ofNat

/-- A number without a sign. The point may lack digits on one side. -/
def unsigned? (negative : Bool) (cs : List Char) : Option Literal :=
  let whole := cs.takeWhile Char.isDigit
  let (fraction, rest) :=
    match cs.dropWhile Char.isDigit with
    | '.' :: rest => (rest.takeWhile Char.isDigit, rest.dropWhile Char.isDigit)
    | rest => ([], rest)
  (Text.natural? 10 (whole ++ fraction)).bind fun digits =>
    (exponent? rest).map fun e => ⟨negative, digits, e - fraction.length⟩

def parse? : List Char → Option Literal
  | '-' :: cs => unsigned? true cs
  | '+' :: cs => unsigned? false cs
  | cs => unsigned? false cs

end Literal

end WorkflowCheck.Decimal
