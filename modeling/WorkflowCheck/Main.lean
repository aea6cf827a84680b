import Std.Time
import WorkflowCheck.CommandLine.SingleFile
import WorkflowCheck.CommandLine.Snapshots

/-! The programs on a real file system. The first argument is the program's name. The files that a
run of snapshots may look at are listed on standard input, one path a line. -/

namespace WorkflowCheck

open CommandLine

def variableNames : List String :=
  ["ACTION_VALIDATOR_FIXTURE_DIR", "ACTION_VALIDATOR_SNAPSHOT_FILE", "ACTION_VALIDATOR_COLOR",
    "NO_COLOR", "RUST_LOG"]

def readEnvironment : IO Environment :=
  variableNames.filterMapM fun name => do
    return (← IO.getEnv name).map fun value => (name, Text.encode value)

def lookAt (path : String) : IO (Option Entry) := do
  try
    return some (.file (← IO.FS.readBinFile path).toList)
  catch
    | .inappropriateType .. => return some .directory
    | _ => return none

/-- Takes a path into the tree, with the directories above it. -/
def load (t : FileTree) (path : String) : IO FileTree := do
  let place := Text.encode path
  match ← lookAt path with
  | some (.file content) =>
    let t := (t.makeDirectories (Path.parent place)).1
    return (t.write place content).toOption.getD t
  | some _ => return (t.makeDirectories place).1
  | none => return t

def workingTree : IO FileTree := do
  let here := Text.encode (toString (← IO.currentDir))
  let t := (FileTree.empty.makeDirectories here).1
  return (t.enter here).toOption.getD t

def readPaths : IO (List String) := do
  let text ← (← IO.getStdin).readToEnd
  return (text.splitOn "\n").filter (!·.isEmpty)

def saveChanges (before after : FileTree) : IO Unit := do
  for (place, entry) in after.entries do
    if let .file content := entry then
      if before.entries.lookup place != some entry then
        IO.FS.writeBinFile (Text.display (Path.slash :: Path.unsplit place))
          (ByteArray.mk content.toArray)

def now : IO Timestamp := do
  let since := (← Std.Time.Timestamp.now).val
  return .sinceEpoch since.second.val.toNat since.nano.val.toNat

def seconds (nanoseconds : Nat) : Decimal.Double := .ofRatio false nanoseconds (Nat.pow 10 9)

/-- Runs a program once to see how long it takes, and then with that time. -/
def runProgram (program : Start → World → Ending) (arguments paths : List String) :
    IO UInt32 := do
  let moment ← now
  let tree ← (arguments ++ paths).foldlM load (← workingTree)
  let start : Start :=
    { arguments := arguments.map Text.encode
      environment := ← readEnvironment
      terminal := ← (← IO.getStdout).isTty
      time := { moment with nanosecond := 0 }.text
      timing := ⟨moment, .ofNat 0⟩ }
  let world : World := ⟨tree, .ofLimits none none, []⟩
  let begun ← IO.monoNanosNow
  let rehearsal := program start world
  let ended ← if rehearsal.world.notices.isEmpty then pure begun else IO.monoNanosNow
  let ending := program { start with timing := ⟨moment, seconds (ended - begun)⟩ } world
  saveChanges tree ending.world.tree
  (← IO.getStdout).write (ByteArray.mk ending.world.streams.out.written.toArray)
  (← IO.getStderr).write (ByteArray.mk ending.world.streams.err.written.toArray)
  return if ending.success then 0 else 1

end WorkflowCheck

def main (arguments : List String) : IO UInt32 := do
  match arguments with
  | "run_snapshots" :: rest =>
    WorkflowCheck.runProgram WorkflowCheck.CommandLine.Snapshots.run rest
      (← WorkflowCheck.readPaths)
  | "action-validator" :: rest | rest =>
    WorkflowCheck.runProgram WorkflowCheck.CommandLine.SingleFile.run rest []
