import WorkflowCheck.Json.Cursor
import WorkflowCheck.Text.Digit

/-! Strings of JSON: what stands between the quotes, escapes resolved. -/

namespace WorkflowCheck.Json.Quoted

def escaped? : Char → Option Char
  | '"' => some '"'
  | '\\' => some '\\'
  | '/' => some '/'
  | 'b' => some '\x08'
  | 'f' => some '\x0c'
  | 'n' => some '\n'
  | 'r' => some '\r'
  | 't' => some '\t'
  | _ => none

def byteSize (cs : List Char) : Nat := cs.foldl (fun n c => n + c.utf8Size) 0

def hexCode : Read Nat := do
  let c ← get
  let ds := c.rest.take 4
  if ds.length = 4 && ds.all Text.isHexDigit then
    set (⟨c.rest.drop 4, c.offset + 4⟩ : Cursor)
    return ds.foldl (fun n d => n * 16 + Text.hexDigitValue d) 0
  else if byteSize ds < 4 then throw (.placed .endInString (c.offset + byteSize ds))
  else throw (.placed .badEscape (c.offset + 4))

def isLeading (n : Nat) : Bool := 0xD800 ≤ n && n ≤ 0xDBFF

def isTrailing (n : Nat) : Bool := 0xDC00 ≤ n && n ≤ 0xDFFF

/-- Passes a character that a pair of escapes needs. -/
def pairMark (mark : Char) : Read Unit := do
  match ← Read.peek with
  | none => Read.fail .endInString
  | some c => if c = mark then Read.advance else Read.failAhead .brokenSurrogatePair

/-- The character of an escape by number. Characters beyond 16 bits take two of them. -/
def unicodeEscape : Read Char := do
  let n ← hexCode
  if isTrailing n then Read.fail .loneSurrogate
  if !isLeading n then return Char.ofNat n
  pairMark '\\'
  pairMark 'u'
  let m ← hexCode
  if !isTrailing m then Read.fail .loneSurrogate
  return Char.ofNat ((n - 0xD800) * 0x400 + (m - 0xDC00) + 0x10000)

def escape : Read Char := do
  match ← Read.peek with
  | none => Read.fail .endInString
  | some 'u' =>
    Read.advance
    unicodeEscape
  | some c =>
    match escaped? c with
    | some d =>
      Read.advance
      return d
    | none => Read.failAhead .badEscape

/-- The next character of a string, none at the quote that ends it. -/
def character : Read (Option Char) := do
  match ← Read.peek with
  | none => Read.fail .endInString
  | some c =>
    if c.toNat < 0x20 then Read.failAhead .controlCharacter
    Read.advance
    if c = '"' then return none
    else if c = '\\' then return some (← escape)
    else return some c

def characters : Nat → Read (List Char)
  | 0 => Read.fail .endInString
  | n + 1 => do
    match ← character with
    | none => return []
    | some c => return c :: (← characters n)

def read : Read String := do
  Read.advance
  return String.ofList (← characters (← Read.budget))

/-- Passes an escape, whatever number it may hold. -/
def skipEscape : Read Unit := do
  match ← Read.peek with
  | none => Read.fail .endInString
  | some 'u' =>
    Read.advance
    discard hexCode
  | some c => if (escaped? c).isSome then Read.advance else Read.failAhead .badEscape

def skipCharacters : Nat → Read Unit
  | 0 => Read.fail .endInString
  | n + 1 => do
    match ← Read.peek with
    | none => Read.fail .endInString
    | some c =>
      if c.toNat < 0x20 then Read.fail .controlCharacter
      Read.advance
      if c = '"' then return
      if c = '\\' then skipEscape
      skipCharacters n

def skip : Read Unit := do
  Read.advance
  skipCharacters (← Read.budget)

end WorkflowCheck.Json.Quoted
