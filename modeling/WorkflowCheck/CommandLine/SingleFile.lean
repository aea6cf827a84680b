import WorkflowCheck.CommandLine.Program

/-! The program that checks a single file. It is silent about a document without faults; of any
other it prints the state. -/

namespace WorkflowCheck.CommandLine.SingleFile

def parameters : List Parameter :=
  [⟨"verbose", some 'v', .flag⟩, ⟨"help", some 'h', .help⟩, ⟨"version", some 'V', .version⟩]

def help : String :=
  "A validator for GitHub Action and Workflow YAML files\n\n" ++
  "Usage: action-validator [OPTIONS] <path_to_action_yaml>\n\n" ++
  "Arguments:\n" ++
  "  <path_to_action_yaml>  Input file\n\n" ++
  "Options:\n" ++
  "  -v, --verbose  Be more verbose\n" ++
  "  -h, --help     Print help\n" ++
  "  -V, --version  Print version\n"

def command : Command where
  name := "action-validator"
  parameters := parameters
  operand := some "path_to_action_yaml"
  shortHelp := help
  longHelp := help
  version := "action-validator 0.1.0\n"

def displayName (path : Bytes) : String := ((Path.fileName path).map Text.display).getD "file"

def complain (text : String) : List Effect × Bool := ([.print ⟨.err, text ++ "\n"⟩], false)

/-- What is done about a document, and whether it has no faults. -/
def checkText (path : Bytes) (text : String) : List Effect × Bool :=
  let kind := Kind.ofPath path
  let (notices, state) := Engine.builtin.examine kind text
  ((.treating (displayName path) kind :: notices).map .note ++
      if state.isValid then [] else [.print ⟨.err, Json.prettyText state.toValue ++ "\n"⟩],
    state.isValid)

def check (t : FileTree) (path : Bytes) : List Effect × Bool :=
  if !t.has path then complain ("File not found: " ++ Text.display path)
  else match t.readText path with
    | .error cause => complain ("Unable to read file: " ++ cause.message)
    | .ok text => checkText path text

def run (start : Start) (w : World) : Ending :=
  match command.parse start.arguments with
  | .error reply => reply.ending command w
  | .ok a =>
    let level := if a.has "verbose" then .info else .warn
    let (log, warnings) := Log.ofEnvironment start.environment level start.time
    let (effects, success) := check w.tree (a.operand.getD [])
    ⟨(w.performAll (warnings ++ effects.flatMap log.announced)).1, success⟩

end WorkflowCheck.CommandLine.SingleFile
