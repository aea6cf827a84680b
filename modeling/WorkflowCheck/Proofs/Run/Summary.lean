import WorkflowCheck.Proofs.Run.Independence

/-! What the summary of a run says. An outcome says of its case what the run has found and done: it
counts as updated if the run has written its snapshot, and the summary passes unless a snapshot is
left that does not match. -/

namespace WorkflowCheck

/-- What an outcome has to say about a case. -/
structure Outcome.Tells (engine : Engine) (mode : Mode) (c : FixtureCase) (o : Outcome) : Prop where
  document : o.document = c.document
  snapshot : o.snapshot = c.snapshot
  kind : o.kind = c.kind
  text : o.text = (engine.validate c.kind c.documentText).snapshot
  matched : o.matched = true ↔ c.snapshotText = (engine.validate c.kind c.documentText).snapshot
  updated : o.updated = true ↔ mode = .update ∧ o.matched = false
  persisted : (o.persist mode).result = .ok o.updated

theorem Runner.tells_outcome (r : Runner) (mode : Mode) (c : FixtureCase) :
    (r.outcome mode c).Tells r.engine mode c := by
  constructor
  case document => rfl
  case snapshot => rfl
  case kind => rfl
  case text => rfl
  case matched => simp [outcome, snapshotMatches, newSnapshot]
  case updated => simp [outcome]
  case persisted =>
    rw [Outcome.persist]
    split
    · next h => exact congrArg Except.ok h.symm
    · next h => exact congrArg Except.ok (Bool.eq_false_of_not_eq_true h).symm

namespace Summary

variable {s : Summary}

theorem passed_iff : s.passed = true ↔ s.mode = .update ∨ s.mismatches = 0 := by
  rw [passed, mismatches, List.countP_eq_zero]
  cases s.mode <;> simp [Mode.passes]

theorem updated_eq_mismatches
    (h : ∀ o ∈ s.outcomes, o.updated = true ↔ s.mode = .update ∧ o.matched = false) :
    s.updated = if s.mode = .update then s.mismatches else 0 := by
  by_cases hmode : s.mode = .update
  · rw [if_pos hmode, updated, mismatches]
    apply List.countP_congr
    intro o ho
    rw [h o ho]
    simp [hmode]
  · rw [if_neg hmode, updated, List.countP_eq_zero]
    intro o ho hupdated
    exact hmode ((h o ho).mp hupdated).1

end Summary

/-- What a summary has to say about the cases of a run. -/
structure Summary.Tells (engine : Engine) (mode : Mode) (cases : List FixtureCase) (s : Summary) :
    Prop where
  outcomes : List.Forall₂ (Outcome.Tells engine mode) cases s.outcomes
  updated : s.updated = if mode = .update then s.mismatches else 0
  passed : s.passed = true ↔ mode = .update ∨ s.mismatches = 0

/-- The file that an outcome has written, if it is updated. -/
def Outcome.written (o : Outcome) : Bytes × String := (o.snapshot, o.text)

namespace Runner

variable {r : Runner} {config : RunConfig} {timing : Timing} {w w' : World} {summary : Summary}

theorem tells_summary (r : Runner) (mode : Mode) (timing : Timing) (cases : List FixtureCase) :
    Summary.Tells r.engine mode cases ⟨mode, timing, cases.map (r.outcome mode)⟩ := by
  constructor
  case outcomes =>
    rw [List.forall₂_map_right_iff, List.forall₂_same]
    exact fun c _ => r.tells_outcome mode c
  case updated =>
    refine Summary.updated_eq_mismatches ?_
    rw [List.forall_mem_map]
    exact fun c _ => (r.tells_outcome mode c).updated
  case passed => exact Summary.passed_iff

theorem saves_cases (r : Runner) (mode : Mode) (cases : List FixtureCase) :
    (cases.flatMap fun c => saves (r.caseEffects mode c)) =
      ((cases.map (r.outcome mode)).filter (·.updated)).map Outcome.written := by
  have hsaves : (fun c => saves (r.caseEffects mode c)) = fun c =>
      if (r.outcome mode c).updated then [(r.outcome mode c).written] else [] :=
    funext (saves_caseEffects mode)
  rw [hsaves, flatMap_ite_singleton, List.filter_map, List.map_map]
  rfl

/-- A summary tells what its run has found and written. -/
theorem tells_of_run (h : r.run config timing w = (w', .ok summary)) : ∃ cases,
    (Discovery.discover w.tree config.root config.snapshotFile).result = .ok cases ∧
      summary.Tells r.engine config.mode cases ∧
      w.tree.writeAll ((summary.outcomes.filter (·.updated)).map Outcome.written) = .ok w'.tree := by
  obtain ⟨cases, hcases, hperform, rfl⟩ := run_eq_ok.mp h
  have hwrite := World.writeAll_of_performAll hperform
  rw [saves_plan hcases, saves_cases] at hwrite
  exact ⟨cases, hcases, r.tells_summary config.mode timing cases, hwrite⟩

end Runner

end WorkflowCheck
