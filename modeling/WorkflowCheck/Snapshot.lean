import WorkflowCheck.Diagnostic
import WorkflowCheck.Json.Printer

/-! Snapshots: the canonical text of a state. Fields stand in their declared order, optional ones
only when they are there, and one newline ends the text. -/

namespace WorkflowCheck

def Location.toValue (location : Location) : Value :=
  .object
    [("index", .number (toString location.index.toNat)),
      ("line", .number (toString location.line.toNat)),
      ("column", .number (toString location.column.toNat))]

def optionalEntry (key : String) : Option Value → List (String × Value)
  | none => []
  | some v => [(key, v)]

mutual

def Diagnostic.toValue : Diagnostic → Value
  | .schema code detail path title none =>
    .object (("code", .string code) ::
      (optionalEntry "detail" (detail.map .string) ++
        [("path", .string path), ("title", .string title)]))
  | .schema code detail path title (some states) =>
    .object (("code", .string code) ::
      (optionalEntry "detail" (detail.map .string) ++
        [("path", .string path), ("title", .string title),
          ("states", .array (nestedStateValues states))]))
  | .parse code detail title location =>
    .object ([("code", .string code), ("detail", .string detail), ("title", .string title)] ++
      optionalEntry "location" (location.map Location.toValue))

def diagnosticValues : List Diagnostic → List Value
  | [] => []
  | d :: rest => d.toValue :: diagnosticValues rest

def NestedState.toValue : NestedState → Value
  | .mk errors => .object [("errors", .array (diagnosticValues errors))]

def nestedStateValues : List NestedState → List Value
  | [] => []
  | s :: rest => s.toValue :: nestedStateValues rest

end

namespace State

def toValue (state : State) : Value :=
  .object
    [("actionType", .string state.kind.name), ("errors", .array (diagnosticValues state.errors))]

/-- The text that a snapshot file holds. -/
def snapshot (state : State) : String := String.ofList (Json.pretty 0 state.toValue ++ ['\n'])

theorem snapshot_eq (state : State) : state.snapshot = Json.prettyText state.toValue ++ "\n" := by
  rw [snapshot, String.ofList_append]
  rfl

end State

def snapshotMatches (expected actual : String) : Bool := expected == actual

end WorkflowCheck
