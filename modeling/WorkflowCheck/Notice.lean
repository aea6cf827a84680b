import WorkflowCheck.Diagnostic

/-! Notices: what the program says about its own progress, beside its results. Each has a level,
a target that names the part it comes from, and a text. -/

namespace WorkflowCheck

inductive Level where
  | error
  | warn
  | info
  | debug
  | trace
  deriving DecidableEq, Repr

namespace Level

def name : Level → String
  | .error => "ERROR"
  | .warn => "WARN"
  | .info => "INFO"
  | .debug => "DEBUG"
  | .trace => "TRACE"

/-- How much a level lets through: each one also what those before it do. -/
def rank : Level → Nat
  | .error => 1
  | .warn => 2
  | .info => 3
  | .debug => 4
  | .trace => 5

end Level

inductive Notice where
  /-- An object with this many top-level keys is being checked. -/
  | topLevelKeys (count : Nat)
  | diagnosed (kind : Kind) (count : Nat)
  | unreadable (reason : String)
  | discovered (document : Bytes)
  | severalDocuments (directory : Bytes) (count : Nat) (chosen : Bytes)
  | running (count : Nat) (root : Bytes) (engine : String)
  | validating (document : Bytes) (kind : Kind)
  | saved (size : Nat) (path : Bytes)
  | treating (file : String) (kind : Kind)
  deriving DecidableEq, Repr

namespace Notice

def level : Notice → Level
  | .severalDocuments .. => .warn
  | .running .. | .treating .. => .info
  | _ => .debug

def target : Notice → String
  | .topLevelKeys _ => "action_validator::engine::schema"
  | .diagnosed .. | .unreadable _ => "action_validator::engine::backend"
  | .discovered _ | .severalDocuments .. => "action_validator::harness::discovery"
  | .running .. | .validating .. => "action_validator::harness::suite"
  | .saved .. => "action_validator::snapshot::writer"
  | .treating .. => "action_validator"

def text : Notice → String
  | .topLevelKeys count => s!"checking {count} top-level keys"
  | .diagnosed kind count => s!"{kind.name} check produced {count} diagnostic(s)"
  | .unreadable reason => "document is not valid YAML: " ++ reason
  | .discovered document => "discovered fixture " ++ Text.display document
  | .severalDocuments directory count chosen =>
    s!"{Text.display directory} holds {count} YAML documents; using {Text.display chosen}"
  | .running count root engine =>
    s!"running {count} fixture(s) from {Text.display root} with the {engine} engine"
  | .validating document kind => s!"validating {Text.display document} as {kind.name}"
  | .saved size path => s!"wrote {size} bytes to {Text.display path}"
  | .treating file .action => "Treating " ++ file ++ " as an Action definition"
  | .treating file .workflow => "Treating " ++ file ++ " as a Workflow definition"

end Notice

end WorkflowCheck
