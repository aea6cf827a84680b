/-! Digits and the numbers they spell. -/

namespace WorkflowCheck.Text

def isHexDigit (c : Char) : Bool :=
  c.isDigit || ('a' ≤ c && c ≤ 'f') || ('A' ≤ c && c ≤ 'F')

def hexDigitValue (c : Char) : Nat :=
  if c.isDigit then c.toNat - 0x30
  else if 'a' ≤ c && c ≤ 'f' then c.toNat - 0x57
  else c.toNat - 0x37

def hexDigit (n : Nat) : Char :=
  if n < 10 then Char.ofNat (0x30 + n) else Char.ofNat (0x57 + n)

def digitValue? (radix : Nat) (c : Char) : Option Nat :=
  if isHexDigit c && hexDigitValue c < radix then some (hexDigitValue c) else none

/-- A natural number of at least one digit. -/
def natural? (radix : Nat) : List Char → Option Nat
  | [] => none
  | digits => digits.foldlM (fun n c => (digitValue? radix c).map (n * radix + ·)) 0

def decimalDigits (n : Nat) : List Char := Nat.toDigits 10 n

def padded (width n : Nat) : List Char :=
  List.replicate (width - (decimalDigits n).length) '0' ++ decimalDigits n

end WorkflowCheck.Text
