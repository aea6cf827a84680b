import WorkflowCheck.Decimal.Shortest
import WorkflowCheck.Diagnostic
import WorkflowCheck.Timestamp
import WorkflowCheck.Value

/-! What comes of running fixtures: an outcome for each, and a verdict over all of them. -/

namespace WorkflowCheck

/-- Whether snapshots that do not match fail a run or are written anew. -/
inductive Mode where
  | check
  | update
  deriving DecidableEq, Repr

namespace Mode

def name : Mode → String
  | .check => "check"
  | .update => "update"

def passes : Mode → List Bool → Bool
  | .check, matched => matched.all id
  | .update, _ => true

end Mode

structure Outcome where
  document : Bytes
  snapshot : Bytes
  kind : Kind
  matched : Bool
  updated : Bool
  /-- The snapshot that the document has now. -/
  text : String
  deriving DecidableEq, Repr

structure Timing where
  start : Timestamp
  elapsed : Decimal.Double

structure Summary where
  mode : Mode
  timing : Timing
  outcomes : List Outcome

namespace Summary

def passed (summary : Summary) : Bool := summary.mode.passes (summary.outcomes.map (·.matched))

def mismatches (summary : Summary) : Nat := summary.outcomes.countP (!·.matched)

def updated (summary : Summary) : Nat := summary.outcomes.countP (·.updated)

end Summary

/-- Only a path that is a text can be written as JSON. -/
def pathValue? (path : Bytes) : Option Value := (Text.decode? path).map .string

def Outcome.toValue? (outcome : Outcome) : Option Value := do
  let document ← pathValue? outcome.document
  let snapshot ← pathValue? outcome.snapshot
  return .object
    [("fixture_path", document), ("snapshot_path", snapshot),
      ("action_type", .string outcome.kind.name), ("matched", .boolean outcome.matched),
      ("updated", .boolean outcome.updated)]

def Decimal.Double.toValue (x : Decimal.Double) : Value :=
  match x.shortest? with
  | some text => .number text
  | none => .null

def Summary.toValue? (summary : Summary) : Option Value := do
  let outcomes ← summary.outcomes.mapM Outcome.toValue?
  return .object
    [("mode", .string summary.mode.name), ("started_at", .string summary.timing.start.text),
      ("elapsed_secs", summary.timing.elapsed.toValue), ("outcomes", .array outcomes)]

def invalidPath : String := "path contains invalid UTF-8 characters"

end WorkflowCheck
