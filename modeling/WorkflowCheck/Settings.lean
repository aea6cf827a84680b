import WorkflowCheck.Report.Style
import WorkflowCheck.Run
import WorkflowCheck.Text.Blank

/-! Settings with their defaults, and what the environment says about them. Values of the
environment that are no texts count as unset. -/

namespace WorkflowCheck

abbrev Environment := List (String × Bytes)

namespace Environment

def isSet (env : Environment) (name : String) : Bool := (env.lookup name).isSome

def text? (env : Environment) (name : String) : Option String :=
  (env.lookup name).bind Text.decode?

end Environment

inductive ColorMode where
  | auto
  | always
  | never
  deriving DecidableEq, Repr

namespace ColorMode

def names : List (String × ColorMode) := [("auto", .auto), ("always", .always), ("never", .never)]

/-- A name in letters of any case, blanks around it ignored. No letter outside of ASCII has one of
these names' letters as its small form. -/
def parse? (text : String) : Option ColorMode :=
  names.lookup (String.ofList ((Text.trim text.toList).map Char.toLower))

def enabled (mode : ColorMode) (terminal : Bool) (env : Environment) : Bool :=
  match mode with
  | .always => true
  | .never => false
  | .auto => terminal && !env.isSet "NO_COLOR"

end ColorMode

/-- How colours are written. A `NO_COLOR` that is not empty takes the colours out of styles even
where they have been asked for. -/
def Report.Palette.choose (colored : Bool) (env : Environment) : Report.Palette :=
  if !colored then .none
  else if (env.text? "NO_COLOR").any (!·.isEmpty) then .colorless
  else .full

structure Settings where
  root : String
  snapshotFile : String
  color : ColorMode
  deriving DecidableEq, Repr

namespace Settings

def default : Settings := ⟨"test", "validation_state.snap.json", .auto⟩

def ofEnvironment (env : Environment) : Settings where
  root := (env.text? "ACTION_VALIDATOR_FIXTURE_DIR").getD default.root
  snapshotFile := (env.text? "ACTION_VALIDATOR_SNAPSHOT_FILE").getD default.snapshotFile
  color := ((env.text? "ACTION_VALIDATOR_COLOR").bind ColorMode.parse?).getD default.color

def runConfig (settings : Settings) : RunConfig :=
  ⟨Text.encode settings.root, Text.encode settings.snapshotFile, .check⟩

end Settings

end WorkflowCheck
