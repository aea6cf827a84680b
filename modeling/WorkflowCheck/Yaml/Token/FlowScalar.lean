import WorkflowCheck.Text.Digit
import WorkflowCheck.Yaml.Cursor
import WorkflowCheck.Yaml.Token.Folding

/-! Scalars that are written in quotes or without any, inside a line or over several. -/

namespace WorkflowCheck.Yaml.Scan

def isFlowIndicator (c : Char) : Bool :=
  c == ',' || c == '[' || c == ']' || c == '{' || c == '}'

/-- The blanks and breaks before the next word. In a plain scalar a tab must not take the place
of indentation, which is given by the least column of its lines. -/
def gap (tabs : Option (Nat × Mark)) : Nat → Gap → Scan Gap
  | 0, g => return g
  | fuel + 1, g => do
    let c ← peek
    if isBlank c then
      match tabs with
      | some (least, start) =>
        if g.isBroken && c == '\t' && (← column) < least then
          fail .tabBeforeIndentation .plainScalar start
      | none => pure ()
      skip
      need 1
      gap tabs fuel (g.addBlank c)
    else if isBreak c then
      need 2
      let text ← takeBreak
      need 1
      gap tabs fuel (g.addBreak text)
    else return g

/-- The characters of one word, with the gap before it; the gap is used up by the first one. -/
def plainWord (inFlow : Bool) (start : Mark) : Nat → Gap → String → Scan (Gap × String)
  | 0, g, s => return (g, s)
  | fuel + 1, g, s => do
    let c ← peek
    if isBlankOrEnd c then return (g, s)
    let next ← peekAt 1
    if inFlow && c == ':' && (isFlowIndicator next || next == '?') then
      fail .colonInFlow .plainScalar start
    if (c == ':' && isBlankOrEnd next) || (inFlow && isFlowIndicator c) then return (g, s)
    skip
    need 2
    plainWord inFlow start fuel .empty ((s ++ g.text).push c)

def plainWords (inFlow : Bool) (least : Nat) (start : Mark) :
    Nat → Gap → String → Scan (Gap × String)
  | 0, g, s => return (g, s)
  | fuel + 1, g, s => do
    need 4
    if (← atDocumentIndicator) || (← peek) == '#' then return (g, s)
    let (g, s) ← plainWord inFlow start (fuel + 1) g s
    let c ← peek
    if !isBlank c && !isBreak c then return (g, s)
    need 1
    let g ← gap (some (least, start)) (fuel + 1) g
    if !inFlow && (← column) < least then return (g, s)
    plainWords inFlow least start fuel g s

/-- A plain scalar, whose further lines have to reach some column outside brackets. Also tells
whether line breaks follow it. -/
def plainScalar (inFlow : Bool) (least : Nat) : Scan (String × Bool) := do
  let start ← mark
  let (g, s) ← plainWords inFlow least start (← budget) .empty ""
  return (s, g.isBroken)

def simpleEscape : Char → Option Char
  | '0' => some '\x00'
  | 'a' => some '\x07'
  | 'b' => some '\x08'
  | 't' => some '\t'
  | '\t' => some '\t'
  | 'n' => some '\n'
  | 'v' => some '\x0b'
  | 'f' => some '\x0c'
  | 'r' => some '\r'
  | 'e' => some '\x1b'
  | ' ' => some ' '
  | '"' => some '"'
  | '/' => some '/'
  | '\\' => some '\\'
  | 'N' => some '\u0085'
  | '_' => some '\u00a0'
  | 'L' => some '\u2028'
  | 'P' => some '\u2029'
  | _ => none

def escapeDigits : Char → Option Nat
  | 'x' => some 2
  | 'u' => some 4
  | 'U' => some 8
  | _ => none

def hexNumber (start : Mark) : Nat → Nat → Nat → Scan Nat
  | 0, _, value => return value
  | n + 1, k, value => do
    let c ← peekAt k
    if !Text.isHexDigit c then
      fail .noHexDigit .quotedEscape start
    hexNumber start n (k + 1) (value * 16 + Text.hexDigitValue c)

def escape (start : Mark) : Scan Char := do
  let c ← peekAt 1
  match simpleEscape c, escapeDigits c with
  | some e, _ =>
    skipN 2
    return e
  | none, some digits =>
    skipN 2
    need digits
    let code ← hexNumber start digits 0 0
    if (0xD800 ≤ code && code ≤ 0xDFFF) || code > 0x10FFFF then
      fail .badCharacterCode .quotedEscape start
    skipN digits
    return Char.ofNat code
  | none, none => fail .unknownEscape .quotedEscape start

/-- The characters of one word inside quotes, and whether an escaped line break ended it. -/
def quotedWord (quote : Char) (start : Mark) : Nat → String → Scan (String × Bool)
  | 0, s => return (s, false)
  | fuel + 1, s => do
    let c ← peek
    let next ← peekAt 1
    if isBlankOrEnd c then return (s, false)
    if quote == '\x27' && c == quote && next == quote then
      skipN 2
      need 2
      quotedWord quote start fuel (s.push quote)
    else if c == quote then return (s, false)
    else if quote == '"' && c == '\\' && isBreak next then
      need 3
      skip
      discard takeBreak
      return (s, true)
    else if quote == '"' && c == '\\' then
      let e ← escape start
      need 2
      quotedWord quote start fuel (s.push e)
    else
      skip
      need 2
      quotedWord quote start fuel (s.push c)

def quotedWords (quote : Char) (start : Mark) : Nat → String → Scan String
  | 0, s => return s
  | fuel + 1, s => do
    need 4
    if ← atDocumentIndicator then
      fail .documentIndicator .quotedScalar start
    if isEnd (← peek) then
      fail .endOfStream .quotedScalar start
    need 2
    let (s, isBroken) ← quotedWord quote start (fuel + 1) s
    need 1
    if (← peek) == quote then return s
    let g ← gap none (fuel + 1) { Gap.empty with isBroken := isBroken }
    quotedWords quote start fuel (s ++ g.text)

def quotedScalar (quote : Char) : Scan String := do
  let start ← mark
  skip
  let s ← quotedWords quote start (← budget) ""
  skip
  return s

end WorkflowCheck.Yaml.Scan
