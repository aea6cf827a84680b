import WorkflowCheck.CommandLine.Program
import WorkflowCheck.Json.Printer

/-! The program that runs all fixtures of a root against their stored snapshots. -/

namespace WorkflowCheck.CommandLine.Snapshots

def parameters : List Parameter :=
  [⟨"update", some 'u', .flag⟩, ⟨"root", none, .valued .path "ROOT"⟩,
    ⟨"snapshot-file", none, .valued .text "SNAPSHOT_FILE"⟩,
    ⟨"color", none, .valued (.choice (ColorMode.names.map (·.1))) "COLOR"⟩,
    ⟨"json", none, .flag⟩, ⟨"help", some 'h', .help⟩]

def about : String :=
  "Run validation snapshot tests over a fixture directory\n\n" ++
  "Usage: run_snapshots [OPTIONS]\n\n" ++
  "Options:\n"

def environmentHelp : String :=
  "\nENVIRONMENT VARIABLES:\n" ++
  "ACTION_VALIDATOR_FIXTURE_DIR     Default fixture root\n" ++
  "ACTION_VALIDATOR_SNAPSHOT_FILE   Snapshot file name in each case\n" ++
  "ACTION_VALIDATOR_COLOR           Default color mode (auto, always, never)\n"

def shortHelp : String :=
  about ++
  "  -u, --update                         " ++
  "Rewrite snapshots that do not match instead of failing\n" ++
  "      --root <ROOT>                    " ++
  "Fixture root directory (one subdirectory per test case)\n" ++
  "      --snapshot-file <SNAPSHOT_FILE>  " ++
  "Snapshot file name inside each test case directory\n" ++
  "      --color <COLOR>                  " ++
  "When to use colored output [possible values: auto, always, never]\n" ++
  "      --json                           " ++
  "Print a JSON run summary after the report\n" ++
  "  -h, --help                           " ++
  "Print help (see more with '--help')\n" ++
  environmentHelp

def longHelp : String :=
  about ++
  "  -u, --update\n" ++
  "          Rewrite snapshots that do not match instead of failing\n\n" ++
  "      --root <ROOT>\n" ++
  "          Fixture root directory (one subdirectory per test case)\n\n" ++
  "      --snapshot-file <SNAPSHOT_FILE>\n" ++
  "          Snapshot file name inside each test case directory\n\n" ++
  "      --color <COLOR>\n" ++
  "          When to use colored output\n\n" ++
  "          Possible values:\n" ++
  "          - auto:   Color when stdout is a terminal and \x60NO_COLOR\x60 is unset\n" ++
  "          - always: Always color\n" ++
  "          - never:  Never color\n\n" ++
  "      --json\n" ++
  "          Print a JSON run summary after the report\n\n" ++
  "  -h, --help\n" ++
  "          Print help (see a summary with '-h')\n" ++
  environmentHelp

def command : Command where
  name := "run_snapshots"
  parameters := parameters
  operand := none
  shortHelp := shortHelp
  longHelp := longHelp
  version := ""

/-- Arguments go before settings. -/
def config (settings : Settings) (a : Arguments) : RunConfig where
  root := (a.value? "root").getD settings.runConfig.root
  snapshotFile := (a.value? "snapshot-file").getD settings.runConfig.snapshotFile
  mode := if a.has "update" then .update else .check

def colorMode (settings : Settings) (a : Arguments) : ColorMode :=
  (((a.value? "color").bind Text.decode?).bind (ColorMode.names.lookup ·)).getD settings.color

/-- A summary that has no JSON form is complained about, without any further consequence. -/
def printJson (summary : Summary) (w : World) : World :=
  match summary.toValue? with
  | some v => say w .out (Json.prettyText v ++ "\n")
  | none => say w .err ("Unable to serialize run summary: " ++ invalidPath ++ "\n")

def printSummary (palette : Report.Palette) (summary : Summary) (w : World) : World :=
  match w.streams.printAll (Report.summary palette summary) with
  | (streams, none) => { w with streams := streams }
  | (streams, some cause) =>
    say { w with streams := streams } .err ("Unable to write summary: " ++ cause.message ++ "\n")

def run (start : Start) (w : World) : Ending :=
  match command.parse start.arguments with
  | .error reply => reply.ending command w
  | .ok a =>
    let (log, warnings) := Log.ofEnvironment start.environment .warn start.time
    let settings := Settings.ofEnvironment start.environment
    let colored := (colorMode settings a).enabled start.terminal start.environment
    let runner : Runner := ⟨.builtin, .choose colored start.environment⟩
    let plan := runner.plan (config settings a) start.timing w.tree
    match (w.performAll warnings).1.follow
        { plan with effects := plan.effects.flatMap log.announced } with
    | (w, .error failure) =>
      ⟨say w .err ("Snapshot run failed: " ++ failure.message ++ "\n"), false⟩
    | (w, .ok summary) =>
      let w := printSummary runner.palette summary w
      ⟨if a.has "json" then printJson summary w else w, summary.passed⟩

end WorkflowCheck.CommandLine.Snapshots
