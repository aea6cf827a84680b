import WorkflowCheck.Proofs.Except
import WorkflowCheck.Run

/-! Plans in sequence. To follow two of them that are put together is to follow one after the other.
The plan of a run is that of its cases in their order, and none of these looks at what another one
has come to. -/

namespace WorkflowCheck

namespace Plan

variable {α β : Type}

@[simp] theorem pure_eq (x : α) : (pure x : Plan α) = ⟨[], .ok x⟩ := rfl

@[simp] theorem ok_bind (effects : List Effect) (x : α) (next : α → Plan β) :
    Plan.mk effects (.ok x) >>= next = ⟨effects ++ (next x).effects, (next x).result⟩ := rfl

@[simp] theorem error_bind (effects : List Effect) (failure : Failure) (next : α → Plan β) :
    Plan.mk effects (.error failure) >>= next = ⟨effects, .error failure⟩ := rfl

end Plan

namespace World

variable {α β : Type} {w w' v : World} {a b : List Effect}

theorem performAll_cons_ok {e : Effect} {rest : List Effect} :
    w.performAll (e :: rest) = (w', none) ↔
      ∃ v, w.perform e = (v, none) ∧ v.performAll rest = (w', none) := by
  rw [performAll]
  rcases w.perform e with ⟨v, _ | failure⟩ <;> simp

theorem performAll_append_of_ok (h : w.performAll a = (v, none)) :
    w.performAll (a ++ b) = v.performAll b := by
  induction a generalizing w with
  | nil =>
    cases h
    rfl
  | cons e rest ih =>
    obtain ⟨u, he, hr⟩ := performAll_cons_ok.mp h
    rw [List.cons_append, performAll, he]
    exact ih hr

theorem performAll_append_of_error {failure : Failure} (h : w.performAll a = (v, some failure)) :
    w.performAll (a ++ b) = (v, some failure) := by
  induction a generalizing w with
  | nil => nomatch h
  | cons e rest ih =>
    rw [List.cons_append, performAll]
    rw [performAll] at h
    rcases he : w.perform e with ⟨u, _ | failure'⟩
    · rw [he] at h
      exact ih h
    · rw [he] at h
      exact h

theorem follow_of_ok {plan : Plan α} (h : w.performAll plan.effects = (w', none)) :
    w.follow plan = (w', plan.result) := by
  rw [follow, h]

theorem follow_of_error {plan : Plan α} {failure : Failure}
    (h : w.performAll plan.effects = (w', some failure)) :
    w.follow plan = (w', .error failure) := by
  rw [follow, h]

theorem follow_fst (w : World) (plan : Plan α) :
    (w.follow plan).1 = (w.performAll plan.effects).1 := by
  unfold follow
  rcases w.performAll plan.effects with ⟨v, _ | failure⟩ <;> rfl

theorem follow_eq_ok {plan : Plan α} {x : α} :
    w.follow plan = (w', .ok x) ↔ w.performAll plan.effects = (w', none) ∧ plan.result = .ok x := by
  unfold follow
  rcases w.performAll plan.effects with ⟨v, _ | failure⟩ <;> simp

theorem follow_bind (w : World) (plan : Plan α) (next : α → Plan β) :
    w.follow (plan >>= next) = match w.follow plan with
      | (v, .ok x) => v.follow (next x)
      | (v, .error failure) => (v, .error failure) := by
  obtain ⟨effects, failure | x⟩ := plan
  · rw [Plan.error_bind]
    rcases hperform : w.performAll effects with ⟨v, _ | failure'⟩ <;> simp [follow, hperform]
  · rw [Plan.ok_bind]
    rcases hperform : w.performAll effects with ⟨v, _ | failure⟩
    · simp [follow, hperform, performAll_append_of_ok hperform]
    · simp [follow, hperform, performAll_append_of_error hperform]

end World

namespace Runner

variable (r : Runner)

@[simp] theorem examined_document (c : FixtureCase) : (r.examined c).document = c.document := rfl

@[simp] theorem examined_snapshot (c : FixtureCase) : (r.examined c).snapshot = c.snapshot := rfl

@[simp] theorem examined_text (c : FixtureCase) : (r.examined c).text = r.newSnapshot c := rfl

@[simp] theorem examined_matched (c : FixtureCase) :
    (r.examined c).matched = snapshotMatches c.snapshotText (r.newSnapshot c) := rfl

/-- What a case comes to. Whether its snapshot is written is known before anything is done. -/
def outcome (mode : Mode) (c : FixtureCase) : Outcome :=
  { r.examined c with updated := mode = .update && !(r.examined c).matched }

/-- What is printed at the end about a snapshot that does not match. -/
def notification (mode : Mode) (document : Bytes) : List Report.Print :=
  match mode with
  | .check => Report.mismatch r.palette document
  | .update => Report.updating r.palette document

/-- All that is done for a case but writing its snapshot, which comes last. -/
def showing (mode : Mode) (c : FixtureCase) : List Effect :=
  r.examination c ++
    (Report.status r.palette mode (r.examined c).matched c.snapshotText (r.newSnapshot c) ++
      if (r.examined c).matched then [] else r.notification mode c.document).map .print

def caseEffects (mode : Mode) (c : FixtureCase) : List Effect := (r.planCase mode c).effects

theorem examine_eq (c : FixtureCase) : r.examine c = ⟨r.examination c, .ok (r.examined c)⟩ := by
  simp [examine, Plan.perform]

theorem settle_examined (mode : Mode) {c : FixtureCase}
    (h : snapshotMatches c.snapshotText (r.newSnapshot c) = false) :
    r.settle mode (r.examined c) = ⟨(r.notification mode c.document).map .print ++
      ((r.examined c).persist mode).effects, .ok (r.outcome mode c)⟩ := by
  cases mode with
  | check => simp [settle, Plan.perform, notification, Outcome.persist, outcome, examined]
  | update => simp [settle, Plan.perform, notification, Outcome.persist, outcome, h]

theorem planCase_eq (mode : Mode) (c : FixtureCase) :
    r.planCase mode c = ⟨r.showing mode c ++ ((r.examined c).persist mode).effects,
      .ok (r.outcome mode c)⟩ := by
  cases h : snapshotMatches c.snapshotText (r.newSnapshot c) with
  | true =>
    have hkept : r.outcome mode c = r.examined c := by simp [outcome, h, examined]
    simp [planCase, examine_eq, Plan.perform, showing, h, Outcome.persist, hkept]
  | false => simp [planCase, examine_eq, Plan.perform, showing, h, settle_examined r mode h]

theorem caseEffects_eq (mode : Mode) (c : FixtureCase) :
    r.caseEffects mode c = r.showing mode c ++ ((r.examined c).persist mode).effects :=
  congrArg Plan.effects (r.planCase_eq mode c)

theorem planCases_eq (mode : Mode) (cases : List FixtureCase) : r.planCases mode cases =
    ⟨cases.flatMap (r.caseEffects mode), .ok (cases.map (r.outcome mode))⟩ := by
  induction cases with
  | nil => rfl
  | cons c rest ih => simp [planCases, planCase_eq, caseEffects_eq, ih]

variable {r} {config : RunConfig} {t : FileTree}

theorem plan_of_found {cases : List FixtureCase} (timing : Timing)
    (h : (Discovery.discover t config.root config.snapshotFile).result = .ok cases) :
    r.plan config timing t =
      ⟨((Discovery.discover t config.root config.snapshotFile).notices ++
          [Notice.running cases.length config.root r.engine.name]).map .note ++
        cases.flatMap (r.caseEffects config.mode),
        .ok ⟨config.mode, timing, cases.map (r.outcome config.mode)⟩⟩ := by
  simp [plan, Discovery.Finding.plan, h, planCases_eq, Plan.perform]

theorem plan_of_failed {failure : Failure} (timing : Timing)
    (h : (Discovery.discover t config.root config.snapshotFile).result = .error failure) :
    r.plan config timing t =
      ⟨(Discovery.discover t config.root config.snapshotFile).notices.map .note,
        .error failure⟩ := by
  simp [plan, Discovery.Finding.plan, h]

end Runner

end WorkflowCheck
