import WorkflowCheck.Json.Fault

/-! The unread part of a JSON text. Faults are placed at the next byte or, where that byte is to
blame, behind it. A fault that concerns a whole value is left loose until the end of the value has
been looked for. -/

namespace WorkflowCheck.Json

structure Cursor where
  rest : List Char
  /-- How many bytes have been read. -/
  offset : Nat
  deriving DecidableEq, Repr

inductive Stop where
  | placed (problem : Problem) (offset : Nat)
  | loose (problem : Problem) (cursor : Cursor)
  deriving DecidableEq, Repr

abbrev Read := StateT Cursor (Except Stop)

def isBlank (c : Char) : Bool := c == ' ' || c == '\n' || c == '\t' || c == '\r'

namespace Cursor

def advance (c : Cursor) : Cursor :=
  match c.rest with
  | [] => c
  | x :: rest => ⟨rest, c.offset + x.utf8Size⟩

def dropBlanks : List Char → Nat → Cursor
  | [], offset => ⟨[], offset⟩
  | x :: rest, offset => if isBlank x then dropBlanks rest (offset + 1) else ⟨x :: rest, offset⟩

def skipBlanks (c : Cursor) : Cursor := dropBlanks c.rest c.offset

/-- The offset behind the next byte. -/
def ahead (c : Cursor) : Nat := if c.rest.isEmpty then c.offset else c.offset + 1

end Cursor

namespace Read

def fail {α : Type} (problem : Problem) : Read α := fun c => .error (.placed problem c.offset)

def failAhead {α : Type} (problem : Problem) : Read α := fun c => .error (.placed problem c.ahead)

def failLoose {α : Type} (problem : Problem) : Read α := fun c => .error (.loose problem c)

def peek : Read (Option Char) := return (← get).rest.head?

def advance : Read Unit := modify Cursor.advance

def skipBlanks : Read Unit := modify Cursor.skipBlanks

/-- The next character that is no blank. -/
def start : Read (Option Char) := do
  skipBlanks
  peek

def skipWhile (p : Char → Bool) : Read Unit :=
  modify fun c => ⟨c.rest.dropWhile p, c.offset + (c.rest.takeWhile p).length⟩

/-- Passes the letters of a word that is known by its first one. -/
def word : List Char → Read Unit
  | [] => return
  | w :: rest => do
    match ← peek with
    | none => fail .endInValue
    | some c =>
      if c = w then
        advance
        word rest
      else failAhead .badWord

def colon : Read Unit := do
  match ← start with
  | some ':' => advance
  | some _ => failAhead .noColon
  | none => failAhead .endInObject

/-- More steps than any loop over the rest of the text takes. -/
def budget : Read Nat := return (← get).rest.length + 1

end Read

end WorkflowCheck.Json
