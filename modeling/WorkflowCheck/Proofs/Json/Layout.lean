import WorkflowCheck.Json.Printer
import WorkflowCheck.Proofs.Json.Reads

/-! The two ways to write a value, compact or with one item a line, are one way with different
blanks. -/

namespace WorkflowCheck.Json

/-- Which blanks stand where. -/
structure Layout where
  /-- In front of an item or entry of some level, and in front of the bracket that closes it. -/
  gap : Nat → List Char
  /-- Behind the colon of an entry. -/
  space : List Char
  blank_gap : ∀ level, Blank (gap level)
  blank_space : Blank space

theorem Blank.nil : Blank [] := by simp [Blank]

theorem Blank.newline (level : Nat) : Blank (newline level) := by
  intro c hc
  rcases List.mem_cons.mp hc with rfl | h
  · rfl
  · rw [List.eq_of_mem_replicate h]
    rfl

namespace Layout

def dense : Layout where
  gap _ := []
  space := []
  blank_gap _ := .nil
  blank_space := .nil

def lines : Layout where
  gap := newline
  space := [' ']
  blank_gap := .newline
  blank_space := by simp [Blank, isBlank]

variable (l : Layout)

/-- Items or entries of some level. All but the first of a bracket have a comma in front. -/
def inside (first : Bool) (level : Nat) : List (List Char) → List Char
  | [] => []
  | t :: ts => (if first then [] else [',']) ++ (l.gap level ++ (t ++ inside false level ts))

def enclose (level : Nat) (opening closing : Char) : List (List Char) → List Char
  | [] => [opening, closing]
  | t :: ts => opening :: (l.inside true (level + 1) (t :: ts) ++ (l.gap level ++ [closing]))

def entry (key : String) (text : List Char) : List Char := quote key ++ ':' :: (l.space ++ text)

mutual

def write (level : Nat) : Value → List Char
  | .null => "null".toList
  | .boolean b => (if b then "true" else "false").toList
  | .number literal => literal.toList
  | .string s => quote s
  | .array items => l.enclose level '[' ']' (writeItems (level + 1) items)
  | .object entries => l.enclose level '{' '}' (writeEntries (level + 1) entries)

def writeItems (level : Nat) : List Value → List (List Char)
  | [] => []
  | v :: rest => write level v :: writeItems level rest

def writeEntries (level : Nat) : List (String × Value) → List (List Char)
  | [] => []
  | (k, v) :: rest => l.entry k (write level v) :: writeEntries level rest

end

end Layout

open Layout

mutual

theorem compact_eq (level : Nat) : ∀ v, compact v = dense.write level v
  | .null | .boolean _ | .number _ | .string _ => by simp [compact, write]
  | .array [] => rfl
  | .array (v :: rest) => by
    rw [compact, compactItems_eq (level + 1) (v :: rest)]
    rfl
  | .object [] => rfl
  | .object (e :: rest) => by
    rw [compact, compactEntries_eq (level + 1) (e :: rest)]
    rfl

theorem compactItems_eq (level : Nat) :
    ∀ items, compactItems items = dense.inside true level (dense.writeItems level items)
  | [] => rfl
  | [v] => by simp [compactItems, compact_eq level v, writeItems, inside, dense]
  | v :: w :: rest => by
    rw [compactItems, compact_eq level v, compactItems_eq level (w :: rest)]
    · rfl
    · simp

theorem compactEntries_eq (level : Nat) :
    ∀ entries, compactEntries entries = dense.inside true level (dense.writeEntries level entries)
  | [] => rfl
  | [(k, v)] => by
    simp [compactEntries, compact_eq level v, writeEntries, inside, entry, dense]
  | (k, v) :: e :: rest => by
    rw [compactEntries, compact_eq level v, compactEntries_eq level (e :: rest)]
    · simp [writeEntries, inside, entry, dense]
    · simp

end

mutual

theorem pretty_eq (level : Nat) : ∀ v, pretty level v = lines.write level v
  | .null | .boolean _ | .number _ | .string _ => by simp [pretty, write]
  | .array [] => by simp [pretty, write, writeItems, enclose]
  | .array (v :: rest) => by
    rw [pretty, prettyItems_eq (level + 1) (v :: rest), List.append_assoc]
    rfl
  | .object [] => by simp [pretty, write, writeEntries, enclose]
  | .object (e :: rest) => by
    rw [pretty, prettyEntries_eq (level + 1) (e :: rest), List.append_assoc]
    rfl

theorem prettyItems_eq (level : Nat) :
    ∀ items, prettyItems level items = lines.inside true level (lines.writeItems level items)
  | [] => by simp [prettyItems, writeItems, inside]
  | [v] => by simp [prettyItems, pretty_eq level v, writeItems, inside, lines]
  | v :: w :: rest => by
    rw [prettyItems, pretty_eq level v, prettyItems_eq level (w :: rest), List.append_assoc]
    · simp [writeItems, inside, lines]
    · simp

theorem prettyEntries_eq (level : Nat) :
    ∀ entries, prettyEntries level entries = lines.inside true level (lines.writeEntries level entries)
  | [] => by simp [prettyEntries, writeEntries, inside]
  | [(k, v)] => by
    simp [prettyEntries, pretty_eq level v, writeEntries, inside, entry, lines]
  | (k, v) :: e :: rest => by
    rw [prettyEntries, pretty_eq level v, prettyEntries_eq level (e :: rest), List.append_assoc]
    · simp [writeEntries, inside, entry, lines]
    · simp

end

end WorkflowCheck.Json
