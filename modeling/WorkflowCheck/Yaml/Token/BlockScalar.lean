import WorkflowCheck.Yaml.Cursor

/-! Scalars whose lines are given by their indentation, literally or folded. -/

namespace WorkflowCheck.Yaml.Scan

inductive Chomping where
  | strip
  | clip
  | keep
  deriving DecidableEq, Repr

def chomping? : Char → Option Chomping
  | '-' => some .strip
  | '+' => some .keep
  | _ => none

def indentationDigit (start : Mark) : Scan (Option Nat) := do
  let c ← peek
  if !c.isDigit then return none
  if c == '0' then
    fail .zeroIndentation .blockScalar start
  skip
  return some (c.toNat - 0x30)

def blockIndicators (start : Mark) : Scan (Chomping × Option Nat) := do
  need 1
  match chomping? (← peek) with
  | some chomping =>
    skip
    need 1
    return (chomping, ← indentationDigit start)
  | none =>
    let digit ← indentationDigit start
    need 1
    match digit, chomping? (← peek) with
    | some _, some chomping =>
      skip
      return (chomping, digit)
    | _, _ => return (.clip, digit)

def skipIndentation (limit : Nat) : Nat → Scan Unit
  | 0 => return
  | fuel + 1 => do
    if (← peek) == ' ' && (limit = 0 || (← column) < limit) then
      skip
      need 1
      skipIndentation limit fuel

/-- Passes empty lines and the indentation after them. Gives their breaks and the largest column
that was met. -/
def emptyLines (limit : Nat) (start : Mark) : Nat → String → Nat → Scan (String × Nat)
  | 0, breaks, largest => return (breaks, largest)
  | fuel + 1, breaks, largest => do
    need 1
    skipIndentation limit (fuel + 1)
    let largest := max largest (← column)
    if (← peek) == '\t' && (limit = 0 || (← column) < limit) then
      fail .tabAsIndentation .blockScalar start
    if !isBreak (← peek) then return (breaks, largest)
    need 2
    let text ← takeBreak
    emptyLines limit start fuel (breaks ++ text) largest

structure BlockText where
  text : String
  /-- The break after the last line, and those of the empty lines after it. -/
  lastBreak : String
  moreBreaks : String
  wasBlank : Bool

/-- The text with the breaks before the next line, which a single space stands for where two
lines without leading blanks are folded. -/
def BlockText.joined (t : BlockText) (isLiteral isBlank : Bool) : String :=
  if !isLiteral && t.lastBreak == "\n" && !t.wasBlank && !isBlank then
    t.text ++ (if t.moreBreaks.isEmpty then " " else t.moreBreaks)
  else t.text ++ t.lastBreak ++ t.moreBreaks

def blockLines (isLiteral : Bool) (limit : Nat) (start : Mark) : Nat → BlockText → Scan BlockText
  | 0, t => return t
  | fuel + 1, t => do
    let c ← peek
    if (← column) != limit || isEnd c then return t
    let blank := isBlank c
    let line ← takeWhile fun c => !isBreakOrEnd c
    need 2
    let lastBreak ← takeBreak
    let (moreBreaks, _) ← emptyLines limit start (fuel + 1) "" 0
    need 1
    blockLines isLiteral limit start fuel
      ⟨t.joined isLiteral blank ++ line, lastBreak, moreBreaks, blank⟩

/-- A block scalar inside a block of the given indentation, which is -1 at the top. -/
def blockScalar (isLiteral : Bool) (indent : Int) : Scan String := do
  let start ← mark
  skip
  let (chomping, increment) ← blockIndicators start
  skipLineRest .blockScalar start
  let given := match increment with
    | none => 0
    | some n => if indent ≥ 0 then indent.toNat + n else n
  let (breaks, largest) ← emptyLines given start (← budget) "" 0
  let limit := if given = 0 then max (max largest (indent + 1).toNat) 1 else given
  need 1
  let t ← blockLines isLiteral limit start (← budget) ⟨"", "", breaks, false⟩
  return match chomping with
    | .strip => t.text
    | .clip => t.text ++ t.lastBreak
    | .keep => t.text ++ t.lastBreak ++ t.moreBreaks

end WorkflowCheck.Yaml.Scan
