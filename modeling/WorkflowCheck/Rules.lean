import WorkflowCheck.Diagnostic
import WorkflowCheck.Pointer

/-! The structural rules. Diagnostics stand in a fixed order: missing keys as declared, unknown
keys as the document has them, then the checks below single keys. -/

namespace WorkflowCheck.Rules

structure Shape where
  required : List String
  allowed : List String

def Shape.action : Shape where
  required := ["name", "description", "runs"]
  allowed := ["name", "author", "description", "inputs", "outputs", "runs", "branding"]

def Shape.workflow : Shape where
  required := ["on", "jobs"]
  allowed :=
    ["name", "run-name", "on", "permissions", "env", "defaults", "concurrency", "jobs"]

def missing (path : String) : Diagnostic :=
  .ofRule "required" path "This property is required"

def unknownKey (key : String) : Diagnostic :=
  (Diagnostic.ofRule "additional_properties" (Pointer.child "" key)
    "Additional properties are not allowed").withDetail
    ("Additional property `" ++ key ++ "` is not allowed")

def wrongType (path expected : String) (actual : Value) : Diagnostic :=
  (Diagnostic.ofRule "wrong_type" path "Type of the value is wrong").withDetail
    ("The value must be " ++ expected ++ ", found " ++ actual.typeName)

/-- One nested state for each alternative, with what is wrong about it. -/
def noneOf (path : String) (alternatives : List String) (actual : Value) : Diagnostic :=
  (Diagnostic.ofRule "any_of" path "AnyOf conditions are not met").withStates
    (alternatives.map fun expected => .mk [wrongType path expected actual])

def unresolvedJob (path need : String) : Diagnostic :=
  (Diagnostic.ofRule "unresolved_job" path "Unresolved job").withDetail
    ("unresolved job " ++ need)

def hasKey (key : String) (entries : List (String × Value)) : Bool :=
  (entries.lookup key).isSome

def checkKeys (shape : Shape) (entries : List (String × Value)) : List Diagnostic :=
  (shape.required.filter fun key => !hasKey key entries).map (fun key => missing (Pointer.child "" key)) ++
    ((entries.map (·.1)).filter fun key => !shape.allowed.contains key).map unknownKey

def checkRuns (runs : Value) : List Diagnostic :=
  match runs with
  | .object entries =>
    match entries.lookup "using" with
    | none => [missing "/runs/using"]
    | some (.string _) => []
    | some other => [wrongType "/runs/using" "string" other]
  | other => [wrongType "/runs" "object" other]

def checkOn (on : Value) : List Diagnostic :=
  match on with
  | .string _ | .array _ | .object _ => []
  | other => [noneOf "/on" ["string", "array", "object"] other]

def checkNeed (jobs : List (String × Value)) (path need : String) : List Diagnostic :=
  if hasKey need jobs then [] else [unresolvedJob path need]

/-- The items of a list of needs, from position `i` on. -/
def checkNeedItems (jobs : List (String × Value)) (path : String) :
    Nat → List Value → List Diagnostic
  | _, [] => []
  | i, .string need :: rest => checkNeed jobs path need ++ checkNeedItems jobs path (i + 1) rest
  | i, other :: rest =>
    wrongType (Pointer.child path (toString i)) "string" other ::
      checkNeedItems jobs path (i + 1) rest

def checkNeeds (jobs : List (String × Value)) (path : String) (needs : Value) :
    List Diagnostic :=
  match needs with
  | .string need => checkNeed jobs path need
  | .array items => checkNeedItems jobs path 0 items
  | other => [noneOf path ["string", "array"] other]

def checkJob (jobs : List (String × Value)) (name : String) (job : Value) :
    List Diagnostic :=
  let path := Pointer.child "/jobs" name
  match job with
  | .object entries =>
    match entries.lookup "needs" with
    | none => []
    | some needs => checkNeeds jobs (Pointer.child path "needs") needs
  | other => [wrongType path "object" other]

def checkJobs (jobs : Value) : List Diagnostic :=
  match jobs with
  | .object entries => entries.flatMap fun e => checkJob entries e.1 e.2
  | other => [wrongType "/jobs" "object" other]

def checkAt (key : String) (entries : List (String × Value))
    (check : Value → List Diagnostic) : List Diagnostic :=
  match entries.lookup key with
  | none => []
  | some value => check value

def checkAction (value : Value) : List Diagnostic :=
  match value with
  | .object entries => checkKeys .action entries ++ checkAt "runs" entries checkRuns
  | other => [wrongType "" "object" other]

def checkWorkflow (value : Value) : List Diagnostic :=
  match value with
  | .object entries =>
    checkKeys .workflow entries ++ checkAt "on" entries checkOn ++ checkAt "jobs" entries checkJobs
  | other => [wrongType "" "object" other]

def check (kind : Kind) (value : Value) : List Diagnostic :=
  match kind with
  | .action => checkAction value
  | .workflow => checkWorkflow value

end WorkflowCheck.Rules
