import WorkflowCheck.Text.Digit
import WorkflowCheck.Yaml.Cursor
import WorkflowCheck.Yaml.Token

/-! Anchors, aliases, tags and directives. The characters of a tag may be given as escaped octets,
so a tag is a string of bytes; it ends before the first octet zero. -/

namespace WorkflowCheck.Yaml.Scan

def endsAnchor (c : Char) : Bool :=
  isBlankOrEnd c || ['?', ':', ',', ']', '}', '%', '@', '\x60'].contains c

def anchorName (activity : Activity) : Scan String := do
  let start ← mark
  skip
  let name ← takeWhile isNameChar
  if name.isEmpty || !endsAnchor (← peek) then
    fail .noNameChar activity start
  return name

def isUriChar (c : Char) : Bool :=
  isNameChar c ||
    [';', '/', '?', ':', '@', '&', '=', '+', '$', '.', '%', '!', '~', '*', '\x27', '(', ')'].contains c

/-- Characters that a tag holds only where its end is marked. -/
def isDelimitedUriChar (c : Char) : Bool :=
  isUriChar c || c == ',' || c == '[' || c == ']'

def octetCount (octet : Nat) : Nat :=
  if octet < 0x80 then 1
  else if octet / 0x20 = 6 then 2
  else if octet / 0x10 = 14 then 3
  else if octet / 0x08 = 30 then 4
  else 0

def escapedOctet (activity : Activity) (start : Mark) : Scan Nat := do
  need 3
  let high ← peekAt 1
  let low ← peekAt 2
  if (← peek) != '%' || !Text.isHexDigit high || !Text.isHexDigit low then
    fail .noUriOctet activity start
  return Text.hexDigitValue high * 16 + Text.hexDigitValue low

def trailingOctets (activity : Activity) (start : Mark) : Nat → Bytes → Scan Bytes
  | 0, octets => return octets
  | n + 1, octets => do
    let octet ← escapedOctet activity start
    if octet / 0x40 != 2 then
      fail .badTrailingOctet activity start
    skipN 3
    trailingOctets activity start n (octets ++ [UInt8.ofNat octet])

def escapedChar (activity : Activity) (start : Mark) : Scan Bytes := do
  let first ← escapedOctet activity start
  let count := octetCount first
  if count = 0 then
    fail .badLeadingOctet activity start
  skipN 3
  trailingOctets activity start (count - 1) [UInt8.ofNat first]

def uriChars (p : Char → Bool) (activity : Activity) (start : Mark) : Nat → Bytes → Scan Bytes
  | 0, bytes => return bytes
  | fuel + 1, bytes => do
    let c ← peek
    if !p c then return bytes
    if c == '%' then
      let octets ← escapedChar activity start
      need 1
      uriChars p activity start fuel (bytes ++ octets)
    else
      skip
      need 1
      uriChars p activity start fuel (bytes ++ Text.encode c.toString)

def beforeZero (bytes : Bytes) : Bytes := bytes.takeWhile (· != 0)

/-- The rest of a tag after `head`, which stands before it already; some character has to be
there in one of the two. -/
def uri (p : Char → Bool) (activity : Activity) (head : String) (start : Mark) : Scan Bytes := do
  need 1
  let before ← mark
  let bytes ← uriChars p activity start (← budget) (Text.encode (head.drop 1).toString)
  if head.isEmpty && before.index == (← mark).index then
    fail .noTagUri activity start
  return beforeZero bytes

def tagHandle (isDirective : Bool) (start : Mark) : Scan String := do
  need 1
  if (← peek) != '!' then
    fail .noExclamation (if isDirective then .tagDirectiveStart else .tag) start
  skip
  let name ← takeWhile isNameChar
  if (← peek) == '!' then
    skip
    return "!" ++ name ++ "!"
  if isDirective && !name.isEmpty then
    fail .noExclamation .tagDirectiveHandle start
  return "!" ++ name

/-- The handle and the rest of a tag that is not delimited. A tag of one `!` has no handle. -/
def shorthandTag (start : Mark) : Scan TokenKind := do
  let handle ← tagHandle false start
  if handle.length > 1 && handle.endsWith "!" then
    return .tag handle (← uri isUriChar .tagUri "" start)
  let rest ← uri isUriChar .tagUri handle start
  return if rest.isEmpty then .tag "" (Text.encode "!") else .tag "!" rest

def delimitedTag (start : Mark) : Scan TokenKind := do
  skipN 2
  let rest ← uri isDelimitedUriChar .tagUri "" start
  if (← peek) != '>' then
    fail .noClosingAngle .tag start
  skip
  return .tag "" rest

def tag (inFlow : Bool) : Scan TokenKind := do
  let start ← mark
  need 2
  let kind ← if (← peekAt 1) == '<' then delimitedTag start else shorthandTag start
  need 1
  let next ← peek
  if !isBlankOrEnd next && !(inFlow && next == ',') then
    fail .noBlankOrBreak .tag start
  return kind

def versionNumber (start : Mark) : Nat → Nat → Nat → Scan Nat
  | 0, _, _ => fail .longVersion .versionDirective start
  | fuel + 1, length, value => do
    let c ← peek
    if !c.isDigit then
      if length = 0 then
        fail .noVersion .versionDirective start
      return value
    if length = 9 then
      fail .longVersion .versionDirective start
    skip
    need 1
    versionNumber start fuel (length + 1) (value * 10 + (c.toNat - 0x30))

def version (start : Mark) : Scan TokenKind := do
  skipWhile isBlank
  let major ← versionNumber start 11 0 0
  if (← peek) != '.' then
    fail .noVersionDot .versionDirective start
  skip
  need 1
  return .version major (← versionNumber start 11 0 0)

def tagDirective (start : Mark) : Scan TokenKind := do
  skipWhile isBlank
  let handle ← tagHandle true start
  need 1
  if !isBlank (← peek) then
    fail .noBlank .tagDirective start
  skipWhile isBlank
  let head ← uri isDelimitedUriChar .tagDirectivePrefix "" start
  if !isBlankOrEnd (← peek) then
    fail .noBlankOrBreak .tagDirective start
  return .tagDirective handle head

def directive : Scan TokenKind := do
  let start ← mark
  skip
  let name ← takeWhile isNameChar
  if name.isEmpty then
    fail .noDirectiveName .directive start
  if !isBlankOrEnd (← peek) then
    fail .nonAlphabetical .directive start
  let kind ←
    if name == "YAML" then version start
    else if name == "TAG" then tagDirective start
    else fail .unknownDirective .directive start
  skipLineRest .directive start
  return kind

end WorkflowCheck.Yaml.Scan
