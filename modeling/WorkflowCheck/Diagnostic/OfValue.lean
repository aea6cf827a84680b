import WorkflowCheck.Diagnostic
import WorkflowCheck.Text.Digit
import WorkflowCheck.Value

/-! Diagnostics read back from values. Nothing in a value says which of the two shapes it has: the
one that points into a document is tried first, then the one with a place in a text. Keys that a
shape knows may occur once, all others are ignored. -/

namespace WorkflowCheck

namespace Value

/-- The value of a key that does not occur twice. -/
def single? {α : Type} (key : String) (entries : List (String × α)) : Option (Option α) :=
  match entries.filter (·.1 == key) with
  | [] => some none
  | [e] => some (some e.2)
  | _ => none

def text? : Value → Option String
  | .string s => some s
  | _ => none

def word? : Value → Option UInt64
  | .number literal =>
    (Text.natural? 10 literal.toList).bind fun n =>
      if n < Nat.pow 2 64 then some (UInt64.ofNat n) else none
  | _ => none

def requiredField? {α : Type} (read : Value → Option α) (key : String)
    (entries : List (String × Value)) : Option α :=
  (single? key entries).bind fun found => found.bind read

/-- A field that may be missing or null. -/
def optionalField? {α : Type} (read : Value → Option α) (key : String)
    (entries : List (String × Value)) : Option (Option α) :=
  (single? key entries).bind fun
    | none => some none
    | some .null => some none
    | some v => (read v).map some

end Value

open Value

def Location.ofValue? : Value → Option Location
  | .array [index, line, column] => do
    return ⟨← word? index, ← word? line, ← word? column⟩
  | .object entries => do
    return ⟨← requiredField? word? "index" entries, ← requiredField? word? "line" entries,
      ← requiredField? word? "column" entries⟩
  | _ => none

namespace Diagnostic

/-- The shape of a diagnostic that points into a document. Its nested states have been read. -/
def schemaOf? (entries : List (String × Value))
    (states : List (String × Option (Option (List NestedState)))) : Option Diagnostic := do
  let code ← requiredField? text? "code" entries
  let detail ← optionalField? text? "detail" entries
  let path ← requiredField? text? "path" entries
  let title ← requiredField? text? "title" entries
  let states ← (← single? "states" states).getD (some none)
  return .schema code detail path title states

def parseOf? (entries : List (String × Value)) : Option Diagnostic := do
  let code ← requiredField? text? "code" entries
  let detail ← requiredField? text? "detail" entries
  let title ← requiredField? text? "title" entries
  let location ← optionalField? Location.ofValue? "location" entries
  return .parse code detail title location

end Diagnostic

mutual

def Diagnostic.ofValue? : Value → Option Diagnostic
  | .object entries =>
    Diagnostic.schemaOf? entries (statesOfEntries entries) <|> Diagnostic.parseOf? entries
  | _ => none

def statesOfEntries :
    List (String × Value) → List (String × Option (Option (List NestedState)))
  | [] => []
  | (key, v) :: rest => (key, statesOfValue? v) :: statesOfEntries rest

def statesOfValue? : Value → Option (Option (List NestedState))
  | .null => some none
  | .array items => (nestedStatesOfItems? items).map some
  | _ => none

def nestedStatesOfItems? : List Value → Option (List NestedState)
  | [] => some []
  | v :: rest =>
    (NestedState.ofValue? v).bind fun s => (nestedStatesOfItems? rest).map (s :: ·)

/-- A nested state is a record of one field, and may be written as an array. -/
def NestedState.ofValue? : Value → Option NestedState
  | .array (v :: rest) => if rest.isEmpty then (diagnosticsOfValue? v).map .mk else none
  | .object entries =>
    (single? "errors" (diagnosticsOfEntries entries)).join.join.map .mk
  | _ => none

def diagnosticsOfEntries : List (String × Value) → List (String × Option (List Diagnostic))
  | [] => []
  | (key, v) :: rest => (key, diagnosticsOfValue? v) :: diagnosticsOfEntries rest

def diagnosticsOfValue? : Value → Option (List Diagnostic)
  | .array items => diagnosticsOfItems? items
  | _ => none

def diagnosticsOfItems? : List Value → Option (List Diagnostic)
  | [] => some []
  | v :: rest =>
    (Diagnostic.ofValue? v).bind fun d => (diagnosticsOfItems? rest).map (d :: ·)

end

end WorkflowCheck
