import WorkflowCheck.Yaml.Fault

/-! The unread part of a YAML text. The text is taken in by blocks of 16384 bytes, and a block
with a forbidden character is refused as a whole: what stands before it can be read, and looking
beyond is the fault. -/

namespace WorkflowCheck.Yaml

structure Cursor where
  rest : List Char
  mark : Mark
  /-- The offset of a forbidden character in the block after `rest`. -/
  forbidden : Option Nat
  /-- More steps than any loop over `rest` takes. -/
  budget : Nat

namespace Cursor

def blockSize : Nat := 16384

/-- Goes through the characters with the offset of the next one, the room left in the block,
the characters of finished blocks and those of the present one, both last first. -/
def split : List Char → (offset room : Nat) → (done block : List Char) → List Char × Option Nat
  | [], _, _, done, block => ((block ++ done).reverse, none)
  | c :: cs, offset, room, done, block =>
    let size := c.utf8Size
    let (room, done, block) :=
      if size ≤ room then (room, done, block) else (blockSize, block ++ done, [])
    if isAllowed c then split cs (offset + size) (room - size) done (c :: block)
    else (done.reverse, some offset)

def ofText (text : String) : Cursor :=
  let (rest, forbidden) := split text.toList 0 blockSize [] []
  ⟨rest, .start, forbidden, text.length + 2⟩

end Cursor

abbrev Scan := StateT Cursor (Except Fault)

namespace Scan

def mark : Scan Mark := return (← get).mark

def column : Scan Nat := return (← get).mark.column

def peek : Scan Char := return (← get).rest.headD endChar

def peekAt (n : Nat) : Scan Char := return (← get).rest.getD n endChar

/-- Makes sure that `n` characters lie ahead, or all that there are. -/
def need (n : Nat) : Scan Unit := do
  let c ← get
  match c.forbidden with
  | none => return
  | some offset => if (c.rest.drop (n - 1)).isEmpty then throw (.forbiddenCharacter offset)

def fail {α : Type} (problem : Problem) (activity : Activity) (start : Mark) : Scan α := do
  throw (.grammar problem (← mark) (some (activity, start)))

def skip : Scan Unit :=
  modify fun c =>
    match c.rest with
    | [] => c
    | x :: rest => { c with rest := rest, mark := c.mark.advance x }

def skipN : Nat → Scan Unit
  | 0 => return
  | n + 1 => do
    skip
    skipN n

/-- Passes one line break, of which a carriage return may have two characters, and gives its
normal form. -/
def takeBreak : Scan String := do
  let c ← get
  match c.rest with
  | '\r' :: '\n' :: rest =>
    set { c with rest := rest, mark := c.mark.newLine 2 }
    return "\n"
  | x :: rest =>
    if isBreak x then
      set { c with rest := rest, mark := c.mark.newLine x.utf8Size }
      return if x == '\u2028' || x == '\u2029' then x.toString else "\n"
    else return ""
  | [] => return ""

def run (p : Char → Bool) : List Char → Mark → String → String × List Char × Mark
  | [], m, s => (s, [], m)
  | c :: cs, m, s => if p c then run p cs (m.advance c) (s.push c) else (s, c :: cs, m)

/-- Passes a run of characters of a class that holds no line break. -/
def takeWhile (p : Char → Bool) : Scan String := do
  need 1
  let c ← get
  let (text, rest, mark) := run p c.rest c.mark ""
  set { c with rest := rest, mark := mark }
  need 1
  return text

def skipWhile (p : Char → Bool) : Scan Unit := do
  discard (takeWhile p)

def skipLineRest (activity : Activity) (start : Mark) : Scan Unit := do
  skipWhile isBlank
  if (← peek) == '#' then
    skipWhile fun c => !isBreakOrEnd c
  if !isBreakOrEnd (← peek) then
    fail .noCommentOrBreak activity start
  if isBreak (← peek) then
    need 2
    discard takeBreak

/-- Whether `---` or `...` stands here alone at the start of a line. -/
def atDocumentIndicator : Scan Bool := do
  let c ← get
  if c.mark.column != 0 then return false
  match c.rest with
  | '-' :: '-' :: '-' :: rest => return isBlankOrEnd (rest.headD endChar)
  | '.' :: '.' :: '.' :: rest => return isBlankOrEnd (rest.headD endChar)
  | _ => return false

def budget : Scan Nat := return (← get).budget

end Scan

end WorkflowCheck.Yaml
