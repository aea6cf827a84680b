import WorkflowCheck.Proofs.Run.Output

/-! Cases beside each other. All texts are read before the first case runs, so a case prints and
comes to the same whatever cases stand around it and whatever they have written. -/

namespace WorkflowCheck

open Report (Channel bytesOn)

namespace Runner

variable {r : Runner} {config : RunConfig} {t : FileTree} {cases : List FixtureCase}
  {c : FixtureCase}

theorem saves_cases_update (r : Runner) (cases : List FixtureCase) :
    (cases.flatMap fun c => saves (r.caseEffects .update c)) =
      (cases.filter r.mismatched).map r.rewritten := by
  have hsaves (c : FixtureCase) : saves (r.caseEffects .update c) =
      if r.mismatched c then [r.rewritten c] else [] := by
    simp [saves_caseEffects, outcome, mismatched, rewritten]
  simp only [hsaves, flatMap_ite_singleton]

theorem exists_writeAll_plan (r : Runner) (timing : Timing)
    (hcases : (Discovery.discover t config.root config.snapshotFile).result = .ok cases) :
    ∃ u, t.writeAll (saves (r.plan config timing t).effects) = .ok u := by
  rw [saves_plan hcases]
  rcases Mode.eq_check_or_eq_update config.mode with hmode | hmode
  · have hnil : (cases.flatMap fun c => saves (r.caseEffects .check c)) = [] :=
      List.flatMap_eq_nil_iff.mpr fun c _ => saves_caseEffects_check c
    rw [hmode, hnil]
    exact ⟨t, rfl⟩
  · have hfiles : ∀ c ∈ cases.filter r.mismatched, t.isFile c.snapshot = true :=
      fun c hc => isFile_snapshot hcases (List.mem_of_mem_filter hc)
    obtain ⟨f, hf, -⟩ := writeAll_rewritten (r := r) hfiles
    rw [hmode, saves_cases_update]
    exact ⟨_, hf⟩

/-- With room for all output, a run over cases that are found cannot fail. -/
theorem run_of_unlimited (r : Runner) (timing : Timing) (notices : List Notice)
    (hcases : (Discovery.discover t config.root config.snapshotFile).result = .ok cases) :
    ∃ w, r.run config timing ⟨t, .ofLimits none none, notices⟩ =
        (w, .ok ⟨config.mode, timing, cases.map (r.outcome config.mode)⟩) ∧
      ∀ channel, w.output channel = cases.flatMap fun c => bytesOn channel (r.report config.mode c) := by
  obtain ⟨u, hu⟩ := r.exists_writeAll_plan timing hcases
  obtain ⟨w, hperform, houtput⟩ := World.exists_performAll_of_unlimited t notices hu
  refine ⟨w, run_eq_ok.mpr ⟨cases, hcases, hperform, rfl⟩, fun channel => ?_⟩
  rw [houtput, prints_plan hcases, Report.bytesOn_flatMap]

theorem bytesOn_err_status (palette : Report.Palette) (mode : Mode) (matched : Bool)
    (stored new : String) : bytesOn .err (Report.status palette mode matched stored new) =
      if matched then []
      else Text.encode (Report.render palette (Diff.compare stored new) ++ "\n") := by
  cases matched <;> simp [Report.status, Report.statusLine, Report.difference, bytesOn]

/-- The differences are all that a case prints to the second stream. -/
theorem bytesOn_err_report (r : Runner) (mode : Mode) (c : FixtureCase) :
    bytesOn .err (r.report mode c) =
      if c.snapshotText = r.newSnapshot c then []
      else Text.encode (Report.render r.palette (Diff.compare c.snapshotText (r.newSnapshot c)) ++
        "\n") := by
  have hbefore : bytesOn .err (Report.header r.palette c.document c.kind ++
      Report.outputStart r.palette ++ Report.outputEnd r.palette) = [] := rfl
  have hafter : bytesOn .err (r.notification mode c.document) = [] := by
    cases mode <;> rfl
  rw [report_eq, Report.bytesOn_append, Report.bytesOn_append, hbefore, bytesOn_err_status]
  by_cases h : c.snapshotText = r.newSnapshot c
  · simp [mismatched, snapshotMatches, h, bytesOn]
  · simp [mismatched, snapshotMatches_of_ne h, h, hafter]

/-- Every run that finds this case and no other prints the same for it and has the same outcome. -/
def RunsAlone (r : Runner) (mode : Mode) (c : FixtureCase) : Prop :=
  ∀ (config : RunConfig) (timing : Timing) (t : FileTree) (notices : List Notice),
    config.mode = mode →
    (Discovery.discover t config.root config.snapshotFile).result = .ok [c] →
    ∃ w, r.run config timing ⟨t, .ofLimits none none, notices⟩ =
        (w, .ok ⟨mode, timing, [r.outcome mode c]⟩) ∧
      ∀ channel, w.output channel = bytesOn channel (r.report mode c)

theorem runsAlone (r : Runner) (mode : Mode) (c : FixtureCase) : r.RunsAlone mode c := by
  rintro config timing t notices rfl hcases
  obtain ⟨w, hrun, houtput⟩ := r.run_of_unlimited timing notices hcases
  exact ⟨w, hrun, fun channel => (houtput channel).trans (List.flatMap_singleton _ c)⟩

/-- With room for all output, a run prints and returns what its cases would each by themselves, one
after the other. A case that does not match prints its difference to the second stream, and one
that matches prints nothing there. -/
theorem cases_run_independently (r : Runner) {config : RunConfig} (timing : Timing) {t : FileTree}
    (notices : List Notice) {cases : List FixtureCase}
    (hcases : (Discovery.discover t config.root config.snapshotFile).result = .ok cases) :
    ∃ w, r.run config timing ⟨t, .ofLimits none none, notices⟩ =
        (w, .ok ⟨config.mode, timing, cases.map (r.outcome config.mode)⟩) ∧
      (∀ channel, w.output channel =
        cases.flatMap fun c => bytesOn channel (r.report config.mode c)) ∧
      ∀ c ∈ cases, r.RunsAlone config.mode c ∧ bytesOn .err (r.report config.mode c) =
        if c.snapshotText = r.newSnapshot c then []
        else Text.encode (Report.render r.palette (Diff.compare c.snapshotText (r.newSnapshot c)) ++
          "\n") := by
  obtain ⟨w, hrun, houtput⟩ := r.run_of_unlimited timing notices hcases
  exact ⟨w, hrun, houtput, fun c _ => ⟨r.runsAlone _ c, r.bytesOn_err_report _ c⟩⟩

end Runner

namespace Stale

/-- The tree without its second fixture. -/
def lone : FileTree where
  entries :=
    [("r", .directory), ("r/a", .directory), ("r/a/x.yml", .file (Text.encode "on: push\n")),
      ("r/a/s", .file (Text.encode "old\n"))].map fun e => (Path.split (Text.encode e.1), e.2)
  working := []

end Stale

/-- The second fixture matches, so all differences are those of the first one alone. -/
theorem stale_differences_of_first : ∃ w v summary summary',
    Stale.runner.run Stale.config Stale.timing Stale.world = (w, .ok summary) ∧
      Stale.runner.run Stale.config Stale.timing ⟨Stale.lone, .ofLimits none none, []⟩ =
        (v, .ok summary') ∧
      summary.outcomes.head? = summary'.outcomes.head? ∧ w.output .err = v.output .err := by
  have hlone : (Discovery.discover Stale.lone Stale.config.root Stale.config.snapshotFile).result =
      .ok [Stale.first] := by cbv
  obtain ⟨w, hrun, houtput, hshare⟩ :=
    Stale.runner.cases_run_independently Stale.timing [] Stale.discover_tree
  obtain ⟨v, hrun', houtput'⟩ :=
    (hshare Stale.first List.mem_cons_self).1 _ Stale.timing _ [] rfl hlone
  have hsecond := (hshare Stale.second (List.mem_cons_of_mem _ List.mem_cons_self)).2
  have hmatches : Stale.second.snapshotText = Stale.runner.newSnapshot Stale.second := by cbv
  rw [if_pos hmatches] at hsecond
  refine ⟨w, v, _, _, hrun, hrun', rfl, ?_⟩
  rw [houtput, houtput', Stale.cases, List.flatMap_cons, List.flatMap_singleton, hsecond,
    List.append_nil]

end WorkflowCheck
