import WorkflowCheck.Proofs.Pointer
import WorkflowCheck.Proofs.Value.Ordered
import WorkflowCheck.Proofs.Text.ByteOrder
import WorkflowCheck.Rules

/-! The schema that the rules stand for, said without them: which keys and which types belong at
which place of a document, what counts as a violation there, and in which order violations come. -/

namespace WorkflowCheck

namespace Value

inductive Step where
  | key (key : String)
  | index (index : Nat)
  deriving DecidableEq

def Step.text : Step → String
  | .key k => k
  | .index i => toString i

/-- Keys lead into objects only and positions into arrays only. -/
def step? : Value → Step → Option Value
  | .object entries, .key key => entries.lookup key
  | .array items, .index index => items[index]?
  | _, _ => none

def at? (document : Value) : List Step → Option Value
  | [] => some document
  | step :: rest => (document.step? step).bind fun v => v.at? rest

end Value

open Value (Step)

namespace Rules

def requiredKeys : Kind → List String
  | .action => ["name", "description", "runs"]
  | .workflow => ["on", "jobs"]

def allowedKeys : Kind → List String
  | .action => ["name", "author", "description", "inputs", "outputs", "runs", "branding"]
  | .workflow =>
    ["name", "run-name", "on", "permissions", "env", "defaults", "concurrency", "jobs"]

/-- The keys that an object at a place has to have. -/
inductive Requires : Kind → List Step → String → Prop where
  | document {kind : Kind} {key : String} (h : key ∈ requiredKeys kind) : Requires kind [] key
  | runsUsing : Requires .action [.key "runs"] "using"

/-- The types that a value at a place may have. -/
inductive Typed : Kind → List Step → List String → Prop where
  | document (kind : Kind) : Typed kind [] ["object"]
  | runs : Typed .action [.key "runs"] ["object"]
  | runsUsing : Typed .action [.key "runs", .key "using"] ["string"]
  | on : Typed .workflow [.key "on"] ["string", "array", "object"]
  | jobs : Typed .workflow [.key "jobs"] ["object"]
  | job (name : String) : Typed .workflow [.key "jobs", .key name] ["object"]
  | needs (job : String) : Typed .workflow [.key "jobs", .key job, .key "needs"] ["string", "array"]
  | need (job : String) (index : Nat) :
    Typed .workflow [.key "jobs", .key job, .key "needs", .index index] ["string"]

def IsJob (document : Value) (name : String) : Prop :=
  ∃ job, document.at? [.key "jobs", .key name] = some job

/-- Where a need stands: by itself or at a position of a list. -/
def needSteps (job : String) (index : Option Nat) : List Step :=
  [.key "jobs", .key job, .key "needs"] ++ index.toList.map .index

inductive Violation where
  | missing (object : List Step) (key : String)
  | unknown (key : String)
  | mistyped (steps : List Step) (types : List String) (actual : Value)
  | unresolved (job : String) (index : Option Nat) (need : String)

inductive Violates (document : Value) : Kind → Violation → Prop where
  | missing {kind : Kind} {steps : List Step} {key : String} {entries : List (String × Value)}
    (required : Requires kind steps key) (object : document.at? steps = some (.object entries))
    (absent : entries.lookup key = none) : Violates document kind (.missing steps key)
  | unknown {kind : Kind} {key : String} {v : Value} (present : document.at? [.key key] = some v)
    (excess : key ∉ allowedKeys kind) : Violates document kind (.unknown key)
  | mistyped {kind : Kind} {steps : List Step} {types : List String} {v : Value}
    (typed : Typed kind steps types) (present : document.at? steps = some v)
    (wrong : v.typeName ∉ types) : Violates document kind (.mistyped steps types v)
  | unresolved {job : String} {index : Option Nat} {need : String}
    (present : document.at? (needSteps job index) = some (.string need))
    (dangling : ¬IsJob document need) : Violates document .workflow (.unresolved job index need)

namespace Violation

def steps : Violation → List Step
  | .missing steps _ => steps
  | .unknown _ => []
  | .mistyped steps _ _ => steps
  | .unresolved job index _ => needSteps job index

/-- The job that a violation lies in. -/
def job? (x : Violation) : Option String :=
  match x.steps with
  | .key "jobs" :: .key job :: _ => some job
  | _ => none

/-- The position of a violation in a list of needs. -/
def index? (x : Violation) : Option Nat :=
  match x.steps with
  | [_, _, _, .index index] => some index
  | _ => none

/-- Missing keys, unknown keys, values below single keys, and jobs at the end. -/
def stage : Violation → Nat
  | .missing [] _ => 0
  | .unknown _ => 1
  | x => match x.steps with
    | .key "jobs" :: _ => 3
    | _ => 2

/-- Missing keys come as declared and unknown ones in the order of their bytes. Jobs come in the
order of their names' bytes, the needs of one job by their positions. -/
inductive Before (kind : Kind) : Violation → Violation → Prop where
  | stage {x y : Violation} (h : x.stage < y.stage) : Before kind x y
  | missing {a b : String} (h : [a, b].Sublist (requiredKeys kind)) :
    Before kind (.missing [] a) (.missing [] b)
  | unknown {a b : String} (h : Text.encode a < Text.encode b) : Before kind (.unknown a) (.unknown b)
  | job {x y : Violation} {a b : String} (hx : x.job? = some a) (hy : y.job? = some b)
    (h : Text.encode a < Text.encode b) : Before kind x y
  | index {x y : Violation} {job : String} {i j : Nat} (hx : x.job? = some job)
    (hy : y.job? = some job) (hi : x.index? = some i) (hj : y.index? = some j) (h : i < j) :
    Before kind x y

end Violation

def pointerTo (steps : List Step) : String := Pointer.ofSteps (steps.map Step.text)

def Violation.diagnostic : Violation → Diagnostic
  | .missing steps key => Rules.missing (pointerTo (steps ++ [.key key]))
  | .unknown key => unknownKey key
  | .mistyped steps [expected] actual => wrongType (pointerTo steps) expected actual
  | .mistyped steps types actual => noneOf (pointerTo steps) types actual
  | .unresolved job _ need => unresolvedJob (pointerTo (needSteps job none)) need

/-- A document without a violation, by the keys and types of an action. -/
structure IsAction (document : Value) : Prop where
  required : ∀ key ∈ ["name", "description", "runs"], ∃ v, document.at? [.key key] = some v
  allowed : ∀ key v, document.at? [.key key] = some v →
    key ∈ ["name", "author", "description", "inputs", "outputs", "runs", "branding"]
  runs : ∃ entries text, document.at? [.key "runs"] = some (.object entries) ∧
    entries.lookup "using" = some (.string text)

structure IsWorkflow (document : Value) : Prop where
  required : ∀ key ∈ ["on", "jobs"], ∃ v, document.at? [.key key] = some v
  allowed : ∀ key v, document.at? [.key key] = some v →
    key ∈ ["name", "run-name", "on", "permissions", "env", "defaults", "concurrency", "jobs"]
  on : ∀ v, document.at? [.key "on"] = some v →
    (∃ text, v = .string text) ∨ (∃ items, v = .array items) ∨ ∃ entries, v = .object entries
  jobs : ∃ jobs, document.at? [.key "jobs"] = some (.object jobs)
  job : ∀ name v, document.at? [.key "jobs", .key name] = some v → ∃ entries, v = .object entries
  needs : ∀ job v, document.at? [.key "jobs", .key job, .key "needs"] = some v →
    (∃ need, v = .string need ∧ IsJob document need) ∨
      ∃ items, v = .array items ∧ ∀ item ∈ items, ∃ need, item = .string need ∧ IsJob document need

end Rules

end WorkflowCheck
