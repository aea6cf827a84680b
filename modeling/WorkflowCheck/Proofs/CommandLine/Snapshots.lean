import WorkflowCheck.CommandLine.Snapshots
import WorkflowCheck.Proofs.Report.Verdict
import WorkflowCheck.Proofs.Run.Inputs
import WorkflowCheck.Proofs.Run.Summary

/-! The program that runs all fixtures, from its arguments to the way it ends. Notices that it shows
go to the second stream, so the first one holds the report of the run, its verdict and the summary
that was asked for. Whether it has success is the verdict of the run, and no run is no success. -/

namespace WorkflowCheck

open Report (Channel bytesOn)

namespace CommandLine

variable {w : World}

/-- To show notices saves nothing and leaves the first stream alone. -/
theorem announced_eq (log : Log) (effects : List Effect) :
    saves (effects.flatMap log.announced) = saves effects ∧
      bytesOn .out (prints (effects.flatMap log.announced)) = bytesOn .out (prints effects) := by
  induction effects with
  | nil => exact ⟨rfl, rfl⟩
  | cons e rest ih =>
    have hstep : saves (log.announced e) = saves [e] ∧
        bytesOn .out (prints (log.announced e)) = bytesOn .out (prints [e]) := by
      cases e with
      | print p => exact ⟨rfl, rfl⟩
      | save path text => exact ⟨rfl, rfl⟩
      | note n =>
        rw [Log.announced, Log.announce]
        split <;> exact ⟨rfl, rfl⟩
    rw [← List.singleton_append, List.flatMap_append, List.flatMap_singleton, saves_append,
      prints_append, Report.bytesOn_append, hstep.1, hstep.2, ih.1, ih.2, ← Report.bytesOn_append,
      ← prints_append, ← saves_append]
    exact ⟨rfl, rfl⟩

/-- Nor do the warnings about what the environment wants. -/
theorem warnings_eq (env : Environment) (level : Level) (time : String) :
    saves (Log.ofEnvironment env level time).2 = [] ∧
      bytesOn .out (prints (Log.ofEnvironment env level time).2) = [] := by
  rw [Log.ofEnvironment]
  split
  · exact ⟨rfl, rfl⟩
  · next text _ =>
    dsimp only
    generalize (Log.Filter.parse text).2 = reasons
    induction reasons with
    | nil => exact ⟨rfl, rfl⟩
    | cons reason rest ih => exact ih

theorem say_eq (hu : w.streams.Unlimited) (channel : Channel) (text : String) :
    (say w channel text).tree = w.tree ∧ ∀ channel', (say w channel text).output channel' =
      w.output channel' ++ bytesOn channel' [⟨channel, text⟩] :=
  ⟨rfl, World.output_print_of_fits (hu.fits ⟨channel, text⟩)⟩

namespace Snapshots

/-- What the program is told to run, and with what. -/
def configOf (start : Start) (a : Arguments) : RunConfig :=
  config (Settings.ofEnvironment start.environment) a

def runnerOf (start : Start) (a : Arguments) : Runner where
  engine := .builtin
  palette := .choose ((colorMode (Settings.ofEnvironment start.environment) a).enabled
    start.terminal start.environment) start.environment

def planOf (start : Start) (a : Arguments) (t : FileTree) : Plan Summary :=
  (runnerOf start a).plan (configOf start a) start.timing t

def found (start : Start) (a : Arguments) (t : FileTree) : Except Failure (List FixtureCase) :=
  (Discovery.discover t (configOf start a).root (configOf start a).snapshotFile).result

theorem printSummary_eq (hu : w.streams.Unlimited) (palette : Report.Palette) (summary : Summary) :
    (printSummary palette summary w).tree = w.tree ∧
      (printSummary palette summary w).streams.Unlimited ∧
      (printSummary palette summary w).output .out =
        w.output .out ++ bytesOn .out (Report.summary palette summary) := by
  obtain ⟨hfits, hunlimited⟩ := hu.printAll (Report.summary palette summary)
  have hwritten := Report.Streams.written_printAll hfits .out
  have heq : printSummary palette summary w =
      { w with streams := (w.streams.printAll (Report.summary palette summary)).1 } := by
    rw [printSummary, ← Prod.mk.eta (p := w.streams.printAll _), hfits]
  rw [heq]
  exact ⟨rfl, hunlimited, hwritten⟩

theorem exists_finish_eq (hu : w.streams.Unlimited) (a : Arguments) (summary : Summary) :
    ∃ json, (a.has "json" = false → json = []) ∧
      (if a.has "json" then printJson summary w else w).tree = w.tree ∧
      (if a.has "json" then printJson summary w else w).output .out = w.output .out ++ json := by
  by_cases hjson : a.has "json" = true
  · rw [if_pos hjson, printJson]
    split
    · exact ⟨_, by simp [hjson], (say_eq hu _ _).1, (say_eq hu _ _).2 .out⟩
    · exact ⟨_, by simp [hjson], (say_eq hu _ _).1, (say_eq hu _ _).2 .out⟩
  · rw [if_neg hjson]
    exact ⟨[], fun _ => rfl, rfl, (List.append_nil _).symm⟩

variable {start : Start} {a : Arguments} {t : FileTree}

/-- To show notices changes neither what a plan comes to nor the tree and the first stream. -/
theorem exists_followed (start : Start) (notices : List Notice) {plan : Plan Summary} {u : FileTree}
    (h : t.writeAll (saves plan.effects) = .ok u) :
    let world : World := ⟨t, .ofLimits none none, notices⟩
    let log := Log.ofEnvironment start.environment .warn start.time
    ∃ w v, world.follow plan = (w, plan.result) ∧
      (world.performAll log.2).1.follow
        { plan with effects := plan.effects.flatMap log.1.announced } = (v, plan.result) ∧
      v.tree = w.tree ∧ v.streams.Unlimited ∧ v.output .out = w.output .out := by
  intro world log
  let effects := log.2 ++ plan.effects.flatMap log.1.announced
  obtain ⟨hsilent, hquiet⟩ := warnings_eq start.environment .warn start.time
  obtain ⟨hshown, hshown'⟩ := announced_eq log.1 plan.effects
  have hsaves : saves effects = saves plan.effects := by
    rw [saves_append, hsilent, hshown, List.nil_append]
  have hbytes : bytesOn .out (prints effects) = bytesOn .out (prints plan.effects) := by
    rw [prints_append, Report.bytesOn_append, hquiet, hshown', List.nil_append]
  obtain ⟨w, hplain, hwtree, -, hwout⟩ := World.exists_performAll (w := world) ⟨rfl, rfl⟩ h
  have hwrite : world.tree.writeAll (saves effects) = .ok u := hsaves ▸ h
  obtain ⟨v, hperform, hvtree, hu, hvout⟩ := World.exists_performAll ⟨rfl, rfl⟩ hwrite
  obtain ⟨x, hwarn, hrun⟩ := World.performAll_append_eq_ok.mp hperform
  refine ⟨w, v, World.follow_of_ok hplain, ?_, hvtree.trans hwtree.symm, hu, ?_⟩
  · rw [hwarn]
    exact World.follow_of_ok hrun
  · rw [hvout, hwout, hbytes]

/-- What the program makes of a run, in a world where notices have been shown. -/
def finish (start : Start) (a : Arguments) (w : World) : Except Failure Summary → Ending
  | .error failure => ⟨say w .err ("Snapshot run failed: " ++ failure.message ++ "\n"), false⟩
  | .ok summary =>
    let w := printSummary (runnerOf start a).palette summary w
    ⟨if a.has "json" then printJson summary w else w, summary.passed⟩

theorem run_of_parse (hparse : command.parse start.arguments = .ok a) (w : World) :
    let log := Log.ofEnvironment start.environment .warn start.time
    let plan := planOf start a w.tree
    let ran := (w.performAll log.2).1.follow
      { plan with effects := plan.effects.flatMap log.1.announced }
    run start w = finish start a ran.1 ran.2 := by
  intro log plan ran
  rw [run, hparse]
  dsimp only
  split
  · next w' failure heq =>
    have hran : ran = (w', .error failure) := heq
    rw [hran, finish]
  · next w' summary heq =>
    have hran : ran = (w', .ok summary) := heq
    rw [hran, finish]
    rfl

theorem exists_writeAll_planOf (start : Start) (a : Arguments) (t : FileTree) :
    ∃ u, t.writeAll (saves (planOf start a t).effects) = .ok u := by
  cases hfound : found start a t with
  | ok cases => exact Runner.exists_writeAll_plan _ start.timing hfound
  | error failure =>
    refine ⟨t, ?_⟩
    rw [planOf, Runner.plan_of_failed start.timing hfound]
    simp [FileTree.writeAll]

theorem exists_run_eq (hparse : command.parse start.arguments = .ok a) (t : FileTree)
    (notices : List Notice) :
    let world : World := ⟨t, .ofLimits none none, notices⟩
    let result := (planOf start a t).result
    ∃ w v, (runnerOf start a).run (configOf start a) start.timing world = (w, result) ∧
      run start world = finish start a v result ∧ v.tree = w.tree ∧ v.streams.Unlimited ∧
      v.output .out = w.output .out := by
  intro world result
  obtain ⟨u, hwrite⟩ := exists_writeAll_planOf start a t
  obtain ⟨w, v, hran, hfollow, htree, hu, hout⟩ := exists_followed start notices hwrite
  have hending := run_of_parse hparse world
  dsimp only at hending
  rw [hfollow] at hending
  exact ⟨w, v, hran, hending, htree, hu, hout⟩

/-- How the program ends where its run has ended so. -/
structure EndsAs (start : Start) (a : Arguments) (ran : World × Except Failure Summary)
    (ending : Ending) : Prop where
  tree : ending.world.tree = ran.1.tree
  failed : ∀ failure, ran.2 = .error failure →
    ending.success = false ∧ ending.world.output .out = ran.1.output .out
  completed : ∀ summary, ran.2 = .ok summary → ending.success = summary.passed ∧
    ∃ json, (a.has "json" = false → json = []) ∧ ending.world.output .out = ran.1.output .out ++
      bytesOn .out (Report.summary (runnerOf start a).palette summary) ++ json

theorem endsAs (hparse : command.parse start.arguments = .ok a) (t : FileTree)
    (notices : List Notice) :
    EndsAs start a
      ((runnerOf start a).run (configOf start a) start.timing ⟨t, .ofLimits none none, notices⟩)
      (run start ⟨t, .ofLimits none none, notices⟩) := by
  obtain ⟨w, v, hrun, hending, htree, hu, hout⟩ := exists_run_eq hparse t notices
  rw [hrun, hending]
  cases hresult : (planOf start a t).result with
  | error failure =>
    have hsay := say_eq hu .err ("Snapshot run failed: " ++ failure.message ++ "\n")
    constructor
    case tree => exact hsay.1.trans htree
    case failed =>
      intro _ _
      exact ⟨rfl, (hsay.2 .out).trans ((List.append_nil _).trans hout)⟩
    case completed => exact fun _ h => nomatch h
  | ok summary =>
    obtain ⟨hstree, hsu, hsout⟩ := printSummary_eq hu (runnerOf start a).palette summary
    obtain ⟨json, hjson, hftree, hfout⟩ := exists_finish_eq hsu a summary
    constructor
    case tree => exact hftree.trans (hstree.trans htree)
    case failed => exact fun _ h => nomatch h
    case completed =>
      rintro _ ⟨⟩
      refine ⟨rfl, json, hjson, ?_⟩
      rw [← hout, ← hsout]
      exact hfout

/-- What the program has to make of what is found in a world. -/
structure Concludes (start : Start) (a : Arguments) (w : World) (ending : Ending) : Prop where
  success : ending.success = true ↔ ∃ w' summary,
    (runnerOf start a).run (configOf start a) start.timing w = (w', .ok summary) ∧
      summary.passed = true
  undiscovered : ∀ failure, found start a w.tree = .error failure →
    ending.success = false ∧ ending.world.tree = w.tree ∧ ending.world.output .out = []
  /-- The report ends in one of two phrases, by the same verdict as the program. -/
  discovered : ∀ cases, found start a w.tree = .ok cases → ∃ w' summary json,
    (runnerOf start a).run (configOf start a) start.timing w = (w', .ok summary) ∧
      summary.Tells .builtin (configOf start a).mode cases ∧ ending.world.tree = w'.tree ∧
      (a.has "json" = false → json = []) ∧
      let last := Report.summary (runnerOf start a).palette summary
      ending.world.output .out = w'.output .out ++ bytesOn .out last ++ json ∧
        (Report.Says last "Passed all tests" ↔ ending.success = true) ∧
        (Report.Says last "Failed some tests" ↔ ending.success = false)

theorem EndsAs.success_iff {ran : World × Except Failure Summary} {ending : Ending}
    (h : EndsAs start a ran ending) :
    ending.success = true ↔ ∃ w summary, ran = (w, .ok summary) ∧ summary.passed = true := by
  constructor
  · intro hsuccess
    cases hran : ran.2 with
    | error failure => exact nomatch hsuccess.symm.trans (h.failed failure hran).1
    | ok summary =>
      exact ⟨ran.1, summary, Prod.ext rfl hran, (h.completed summary hran).1.symm.trans hsuccess⟩
  · rintro ⟨w, summary, rfl, hpassed⟩
    exact (h.completed summary rfl).1.trans hpassed

theorem concludes (hparse : command.parse start.arguments = .ok a) (t : FileTree)
    (notices : List Notice) :
    Concludes start a ⟨t, .ofLimits none none, notices⟩
      (run start ⟨t, .ofLimits none none, notices⟩) := by
  have hends := endsAs hparse t notices
  constructor
  case success => exact hends.success_iff
  case undiscovered =>
    intro failure hfound
    rw [Runner.run_of_failed_discovery hfound] at hends
    obtain ⟨hsuccess, hout⟩ := hends.failed failure rfl
    exact ⟨hsuccess, hends.tree, hout⟩
  case discovered =>
    intro cases hfound
    obtain ⟨w', hrun, -⟩ := (runnerOf start a).run_of_unlimited start.timing notices hfound
    rw [hrun] at hends
    obtain ⟨hsuccess, json, hjson, hout⟩ := hends.completed _ rfl
    refine ⟨w', _, json, hrun, (runnerOf start a).tells_summary _ _ cases, hends.tree, hjson, hout, ?_⟩
    rw [hsuccess]
    exact Report.says_verdict _ _ _

/-- The verdict is one and the same from the outcomes to the way the program ends. -/
theorem verdict_consistent :
    (∀ (r : Runner) (config : RunConfig) (timing : Timing) (w w' : World) (summary : Summary),
      r.run config timing w = (w', .ok summary) → ∃ cases,
        (Discovery.discover w.tree config.root config.snapshotFile).result = .ok cases ∧
          summary.Tells r.engine config.mode cases ∧
          w.tree.writeAll ((summary.outcomes.filter (·.updated)).map Outcome.written) =
            .ok w'.tree) ∧
    ∀ (start : Start) (a : Arguments) (t : FileTree) (notices : List Notice),
      command.parse start.arguments = .ok a →
      Concludes start a ⟨t, .ofLimits none none, notices⟩
        (run start ⟨t, .ofLimits none none, notices⟩) :=
  ⟨fun _ _ _ _ _ _ h => Runner.tells_of_run h, fun _ _ t notices h => concludes h t notices⟩

end Snapshots

end CommandLine

namespace Stale

def start : CommandLine.Start where
  arguments := []
  environment := [("ACTION_VALIDATOR_FIXTURE_DIR", Text.encode "r"),
    ("ACTION_VALIDATOR_SNAPSHOT_FILE", Text.encode "s")]
  terminal := false
  time := ""
  timing := timing

end Stale

/-- An update run passes over a stale snapshot, and the program, which only compares, fails. -/
theorem stale_verdicts :
    (∃ w summary, Stale.runner.run Stale.config Stale.timing Stale.world = (w, .ok summary) ∧
      summary.passed = true ∧ summary.updated = summary.mismatches) ∧
    ∃ a, CommandLine.Snapshots.command.parse Stale.start.arguments = .ok a ∧
      (CommandLine.Snapshots.run Stale.start Stale.world).success = false := by
  constructor
  · obtain ⟨w, hrun, -⟩ := Stale.runner.run_of_unlimited Stale.timing [] Stale.discover_tree
    obtain ⟨cases, -, htells, -⟩ :=
      CommandLine.Snapshots.verdict_consistent.1 _ _ _ Stale.world _ _ hrun
    exact ⟨w, _, hrun, htells.passed.mpr (.inl rfl), htells.updated⟩
  · let a : CommandLine.Arguments := .empty
    have hparse : CommandLine.Snapshots.command.parse Stale.start.arguments = .ok a := rfl
    have hconfig : CommandLine.Snapshots.configOf Stale.start a =
        ⟨Stale.config.root, Stale.config.snapshotFile, .check⟩ := by cbv
    have hfound : CommandLine.Snapshots.found Stale.start a Stale.tree =
        .ok [Stale.first, Stale.second] := by
      rw [CommandLine.Snapshots.found, hconfig]
      exact Stale.discover_tree
    have h := CommandLine.Snapshots.verdict_consistent.2 Stale.start a Stale.tree [] hparse
    refine ⟨a, hparse, Bool.eq_false_iff.mpr fun hsuccess => ?_⟩
    obtain ⟨w, summary, hrun, hpassed⟩ := h.success.mp hsuccess
    obtain ⟨cases, hfound', htells, -⟩ := CommandLine.Snapshots.verdict_consistent.1 _ _ _ _ _ _ hrun
    obtain rfl : cases = [Stale.first, Stale.second] := Except.ok.inj (hfound'.symm.trans hfound)
    have hnone : summary.mismatches = 0 := (htells.passed.mp hpassed).resolve_left (by decide)
    rw [Summary.mismatches, List.countP_eq_zero] at hnone
    obtain ⟨o, os, hfirst, -, heq⟩ := List.forall₂_cons_left_iff.mp htells.outcomes
    have hmatched : o.matched = true := by simpa using hnone o (heq ▸ List.mem_cons_self)
    have hold : "old\n" = (Engine.builtin.validate Stale.first.kind "on: push\n").snapshot :=
      hfirst.matched.mp hmatched
    have hhead := State.head_snapshot (Engine.builtin.validate Stale.first.kind "on: push\n")
    rw [← hold] at hhead
    exact absurd hhead (by decide)

end WorkflowCheck
