import WorkflowCheck.Diagnostic.OfValue
import WorkflowCheck.Json.Decoder
import WorkflowCheck.Snapshot

/-! States read back from JSON text. A diagnostic is first read as a value of any kind, since only
the whole of it shows which shape it has. -/

namespace WorkflowCheck

open Json

def Kind.names : List (String × Kind) := [(Kind.action.name, .action), (Kind.workflow.name, .workflow)]

def Kind.decoder : Decoder Kind := Decoder.choice Kind.names

namespace Location

structure Draft where
  index : Option UInt64 := none
  line : Option UInt64 := none
  column : Option UInt64 := none

def Draft.finish (d : Draft) : Option Location := do
  return ⟨← d.index, ← d.line, ← d.column⟩

def shape : RecordShape Draft Location where
  name := "ParseErrorLocation"
  empty := {}
  fields :=
    [⟨"index", true, (·.index.isSome),
        fun d depth => return { d with index := some (← Decoder.word depth) }⟩,
      ⟨"line", true, (·.line.isSome),
        fun d depth => return { d with line := some (← Decoder.word depth) }⟩,
      ⟨"column", true, (·.column.isSome),
        fun d depth => return { d with column := some (← Decoder.word depth) }⟩]
  finish := Draft.finish

end Location

def Diagnostic.decoder : Decoder Diagnostic := fun depth => do
  match Diagnostic.ofValue? (← readValue depth) with
  | some d => return d
  | none => Read.failLoose (.noShape "ValidationError")

def NestedState.shape : RecordShape (Option (List Diagnostic)) NestedState where
  name := "NestedState"
  empty := none
  fields :=
    [⟨"errors", true, (·.isSome),
      fun _ depth => return some (← Decoder.list Diagnostic.decoder depth)⟩]
  finish errors := errors.map .mk

namespace State

structure Draft where
  kind : Option Kind := none
  errors : Option (List Diagnostic) := none

def Draft.finish (d : Draft) : Option State := do
  return ⟨← d.kind, ← d.errors⟩

def shape : RecordShape Draft State where
  name := "ValidationState"
  empty := {}
  fields :=
    [⟨"actionType", true, (·.kind.isSome),
        fun d depth => return { d with kind := some (← Kind.decoder depth) }⟩,
      ⟨"errors", true, (·.errors.isSome),
        fun d depth =>
          return { d with errors := some (← Decoder.list Diagnostic.decoder depth) }⟩]
  finish := Draft.finish

def read (text : String) : Except Json.Fault State := Json.decode shape.decode text

end State

end WorkflowCheck
