import WorkflowCheck.Decimal.Double

/-! Doubles written with a fixed number of decimal places: the exact value is rounded, a tie
going to the even digit, and the sign is kept even where only zeros are left. -/

namespace WorkflowCheck.Decimal.Double

def sign (negative : Bool) : List Char := if negative then ['-'] else []

/-- A natural number with a point before its last digits. -/
def pointed (places n : Nat) : List Char :=
  let digits := Text.padded (places + 1) n
  if places = 0 then digits
  else
    digits.take (digits.length - places) ++ '.' :: digits.drop (digits.length - places)

def fixed (places : Nat) : Double → String
  | .finite negative m e =>
    let (num, den) := ratio m e
    String.ofList (sign negative ++ pointed places (roundDiv (num * Nat.pow 10 places) den))
  | .infinite negative => String.ofList (sign negative ++ "inf".toList)
  | .notANumber => "NaN"

end WorkflowCheck.Decimal.Double
