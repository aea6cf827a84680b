import WorkflowCheck.Discovery
import WorkflowCheck.Engine
import WorkflowCheck.Report.Progress
import WorkflowCheck.Run.Effect
import WorkflowCheck.Snapshot

/-! A run over all fixtures of a root. Each is checked by the engine, its result is compared with
the stored snapshot, and in update mode a snapshot that does not match is written anew. -/

namespace WorkflowCheck

/-- What to run: a root with one subdirectory for each fixture. -/
structure RunConfig where
  root : Bytes
  snapshotFile : Bytes
  mode : Mode
  deriving DecidableEq, Repr

structure Runner where
  engine : Engine
  palette : Report.Palette

def Discovery.Finding.plan {α : Type} (found : Finding α) : Plan α :=
  ⟨found.notices.map .note, found.result⟩

/-- Writes the snapshot of an outcome that does not match, in update mode only. -/
def Outcome.persist (outcome : Outcome) (mode : Mode) : Plan Bool :=
  if mode = .update && !outcome.matched then
    ⟨[.save outcome.snapshot outcome.text,
      .note (.saved outcome.text.utf8ByteSize outcome.snapshot)], .ok true⟩
  else ⟨[], .ok false⟩

namespace Runner

def newSnapshot (r : Runner) (case : FixtureCase) : String :=
  (r.engine.validate case.kind case.documentText).snapshot

def examination (r : Runner) (case : FixtureCase) : List Effect :=
  (Report.header r.palette case.document case.kind ++ Report.outputStart r.palette).map .print ++
    [.note (.validating case.document case.kind)] ++
    (r.engine.notices case.kind case.documentText).map .note ++
    (Report.outputEnd r.palette).map .print

/-- A fixture that has been looked at and not been written to. -/
def examined (r : Runner) (case : FixtureCase) : Outcome where
  document := case.document
  snapshot := case.snapshot
  kind := case.kind
  matched := snapshotMatches case.snapshotText (r.newSnapshot case)
  updated := false
  text := r.newSnapshot case

def examine (r : Runner) (case : FixtureCase) : Plan Outcome := do
  Plan.perform (r.examination case)
  return r.examined case

/-- What is done about a snapshot that does not match. -/
def settle (r : Runner) (mode : Mode) (outcome : Outcome) : Plan Outcome :=
  match mode with
  | .check => do
    Plan.perform ((Report.mismatch r.palette outcome.document).map .print)
    return outcome
  | .update => do
    Plan.perform ((Report.updating r.palette outcome.document).map .print)
    return { outcome with updated := ← outcome.persist mode }

def planCase (r : Runner) (mode : Mode) (case : FixtureCase) : Plan Outcome := do
  let outcome ← r.examine case
  let status := Report.status r.palette mode outcome.matched case.snapshotText outcome.text
  Plan.perform (status.map .print)
  if outcome.matched then return outcome else r.settle mode outcome

def planCases (r : Runner) (mode : Mode) : List FixtureCase → Plan (List Outcome)
  | [] => return []
  | case :: rest => do
    let outcome ← r.planCase mode case
    return outcome :: (← r.planCases mode rest)

def plan (r : Runner) (config : RunConfig) (timing : Timing) (t : FileTree) : Plan Summary := do
  let cases ← (Discovery.discover t config.root config.snapshotFile).plan
  Plan.perform [.note (.running cases.length config.root r.engine.name)]
  return ⟨config.mode, timing, ← r.planCases config.mode cases⟩

def run (r : Runner) (config : RunConfig) (timing : Timing) (w : World) :
    World × Except Failure Summary :=
  w.follow (r.plan config timing w.tree)

end Runner

end WorkflowCheck
