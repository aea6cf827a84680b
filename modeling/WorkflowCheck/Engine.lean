import WorkflowCheck.Notice
import WorkflowCheck.Rules
import WorkflowCheck.Yaml.Reader

/-! Engines: whatever gives a state to the text of a document. The built-in one reads the text and
checks its value; a fixed one has the same diagnostics for every text. -/

namespace WorkflowCheck

structure Engine where
  name : String
  /-- The state of a text of the given kind, with the notices on the way. -/
  examine : Kind → String → List Notice × State

namespace Engine

def validate (engine : Engine) (kind : Kind) (text : String) : State :=
  (engine.examine kind text).2

def notices (engine : Engine) (kind : Kind) (text : String) : List Notice :=
  (engine.examine kind text).1

end Engine

def Yaml.Fault.diagnostic (fault : Yaml.Fault) : Diagnostic :=
  .parse "invalid_yaml" fault.message "Invalid YAML" fault.location?

namespace Rules

/-- The top-level keys are counted only where there are any to check. -/
def notices (value : Value) : List Notice :=
  match value with
  | .object entries => [.topLevelKeys entries.length]
  | _ => []

end Rules

namespace Engine

def examineValue (kind : Kind) (value : Value) : List Notice × State :=
  let errors := Rules.check kind value
  (Rules.notices value ++ [.diagnosed kind errors.length], ⟨kind, errors⟩)

def builtin : Engine where
  name := "builtin"
  examine kind text :=
    match Yaml.read text with
    | .ok value => examineValue kind value.sorted
    | .error fault => ([.unreadable fault.message], ⟨kind, [fault.diagnostic]⟩)

def fixed (errors : List Diagnostic) : Engine where
  name := "fixed"
  examine kind _ := ([], ⟨kind, errors⟩)

end Engine

end WorkflowCheck
