import WorkflowCheck.CommandLine.Arguments
import WorkflowCheck.CommandLine.Log
import WorkflowCheck.Settings

/-! What programs are started with, and how they end. -/

namespace WorkflowCheck.CommandLine

structure Start where
  arguments : List Bytes
  environment : Environment
  /-- Whether the output goes to a terminal. -/
  terminal : Bool
  /-- The time that notices are shown with. -/
  time : String
  timing : Timing

structure Ending where
  world : World
  success : Bool

/-- The world after one more text, cut where its stream is full. -/
def say (w : World) (channel : Report.Channel) (text : String) : World :=
  (w.perform (.print ⟨channel, text⟩)).1

/-- Help and the version are answers, everything else is a refusal. -/
def Reply.ending (reply : Reply) (c : Command) (w : World) : Ending :=
  match reply with
  | .help long => ⟨say w .out (if long then c.longHelp else c.shortHelp), true⟩
  | .version => ⟨say w .out c.version, true⟩
  | .bare => ⟨say w .err c.shortHelp, false⟩
  | .refuse fault => ⟨say w .err (fault.message c), false⟩

/-- How notices are shown: as the environment wants it, with what is said about the parts of its
wish that could not be used, or else from a level on. -/
def Log.ofEnvironment (env : Environment) (level : Level) (time : String) : Log × List Effect :=
  match env.text? "RUST_LOG" with
  | none => (⟨.ofLevel level, time⟩, [])
  | some text =>
    let (filter, reasons) := Log.Filter.parse text
    (⟨filter, time⟩,
      reasons.map fun reason => .print ⟨.err, "warning: " ++ reason ++ ", ignoring it\n"⟩)

end WorkflowCheck.CommandLine
