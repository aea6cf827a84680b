import WorkflowCheck.Path

/-! What a check of a document finds. A diagnostic about the content of a document points into
it; one about a text that could not be read carries a place in the text instead. -/

namespace WorkflowCheck

inductive Kind where
  | action
  | workflow
  deriving DecidableEq, Repr

namespace Kind

def name : Kind → String
  | .action => "action"
  | .workflow => "workflow"

def actionNames : List String := ["action.yml", "action.yaml"]

/-- Only the file name decides, and it has to be one of the two exactly. -/
def ofPath (path : Bytes) : Kind :=
  match Path.fileName path with
  | some file => if file ∈ actionNames.map Text.encode then .action else .workflow
  | none => .workflow

end Kind

/-- A place in a text: an offset in bytes, and a line and a column counted from one. -/
structure Location where
  index : UInt64
  line : UInt64
  column : UInt64
  deriving DecidableEq, Repr

mutual

inductive Diagnostic where
  | schema (code : String) (detail : Option String) (path title : String)
      (states : Option (List NestedState))
  | parse (code detail title : String) (location : Option Location)

/-- What one of several alternatives had to say. -/
inductive NestedState where
  | mk (errors : List Diagnostic)

end

namespace Diagnostic

def ofRule (code path title : String) : Diagnostic := .schema code none path title none

def withDetail (text : String) : Diagnostic → Diagnostic
  | .schema code _ path title states => .schema code (some text) path title states
  | .parse code detail title location => .parse code detail title location

def withStates (states : List NestedState) : Diagnostic → Diagnostic
  | .schema code detail path title _ => .schema code detail path title (some states)
  | .parse code detail title location => .parse code detail title location

def code : Diagnostic → String
  | .schema code .. => code
  | .parse code .. => code

def title : Diagnostic → String
  | .schema _ _ _ title _ => title
  | .parse _ _ title _ => title

def path? : Diagnostic → Option String
  | .schema _ _ path _ _ => some path
  | .parse .. => none

def location? : Diagnostic → Option Location
  | .schema .. => none
  | .parse _ _ _ location => location

end Diagnostic

def NestedState.errors : NestedState → List Diagnostic
  | .mk errors => errors

structure State where
  kind : Kind
  errors : List Diagnostic

def State.isValid (state : State) : Bool := state.errors.isEmpty

end WorkflowCheck
