import WorkflowCheck.Decimal.Fixed

/-! Doubles written with the fewest digits that read back, of several such decimals the nearest
one. Numbers from `1e-5` up to below `1e16` are written without an exponent. -/

namespace WorkflowCheck.Decimal.Double

/-- The reals that round to a positive double, as bounds in quarters of its last place. The gap
below a power of two is half as wide as the one above. -/
def roundingBounds (m : Nat) (e : Int) : Nat × Nat :=
  (if m = Nat.pow 2 52 ∧ e > leastExponent then 4 * m - 1 else 4 * m - 2, 4 * m + 2)

/-- Whether `digits * 10 ^ grid` rounds to the double `m * 2 ^ e`. The ends of the interval
belong to it only where the significand is even. -/
def readsBack (m : Nat) (e : Int) (digits : Nat) (grid : Int) : Bool :=
  let (low, high) := roundingBounds m e
  let value := digits * Nat.pow 10 grid.toNat * Nat.pow 2 (2 - e).toNat
  let low := low * Nat.pow 2 (e - 2).toNat * Nat.pow 10 (-grid).toNat
  let high := high * Nat.pow 2 (e - 2).toNat * Nat.pow 10 (-grid).toNat
  if m % 2 = 0 then low ≤ value && value ≤ high else low < value && value < high

/-- The decimal of the grid `10 ^ grid` that reads back, the nearer one where two do. -/
def onGrid? (m : Nat) (e : Int) (grid : Int) : Option (Nat × Int) :=
  let (num, den) := ratio m e
  let num := num * Nat.pow 10 (-grid).toNat
  let den := den * Nat.pow 10 grid.toNat
  let below := num / den
  match readsBack m e below grid, readsBack m e (below + 1) grid with
  | true, true => some (roundDiv num den, grid)
  | true, false => some (below, grid)
  | false, true => some (below + 1, grid)
  | false, false => none

/-- The least `k` with `num / den < 10 ^ k`. -/
def decimalScale (num den : Nat) : Int :=
  if den ≤ num then (Text.decimalDigits (num / den)).length
  else
    let d := (Text.decimalDigits (den / num)).length
    if num * Nat.pow 10 (d - 1) = den then 2 - d else 1 - d

def dropZeros (digits : Nat) (exponent : Int) : Nat × Int :=
  if h : digits ≠ 0 ∧ digits % 10 = 0 then dropZeros (digits / 10) (exponent + 1)
  else (digits, exponent)
termination_by digits
decreasing_by omega

/-- The digits and the exponent of the shortest decimal. Seventeen digits always suffice; the
exact value stands in for the case that they do not. -/
def shortestDecimal (m : Nat) (e : Int) : Nat × Int :=
  let (num, den) := ratio m e
  let scale := decimalScale num den
  match (List.range 17).findSome? fun n : Nat => onGrid? m e (scale - n - 1) with
  | some (digits, exponent) => dropZeros digits exponent
  | none => (m * Nat.pow 2 e.toNat * Nat.pow 5 (-e).toNat, min e 0)

def isPlace (e : Int) : Bool := -5 ≤ e && e ≤ 15

def zeros (n : Int) : List Char := List.replicate n.toNat '0'

def positional (digits : List Char) (leading exponent : Int) : List Char :=
  if 0 ≤ exponent then digits ++ zeros exponent ++ ['.', '0']
  else if 0 ≤ leading then
    digits.take (leading + 1).toNat ++ '.' :: digits.drop (leading + 1).toNat
  else ['0', '.'] ++ zeros (-leading - 1) ++ digits

def scientific (digits : List Char) (leading : Int) : List Char :=
  let fraction := if digits.length = 1 then [] else '.' :: digits.tail
  digits.take 1 ++ fraction ++
    ['e', if leading < 0 then '-' else '+'] ++ Text.decimalDigits leading.natAbs

def layOut (digits : Nat) (exponent : Int) : List Char :=
  let ds := Text.decimalDigits digits
  let leading := exponent + ds.length - 1
  if isPlace leading then positional ds leading exponent else scientific ds leading

def shortest? : Double → Option String
  | .finite negative m e =>
    let text :=
      if m = 0 then ['0', '.', '0']
      else
        let (digits, exponent) := shortestDecimal m e
        layOut digits exponent
    some (String.ofList (sign negative ++ text))
  | _ => none

end WorkflowCheck.Decimal.Double
