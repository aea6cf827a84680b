import WorkflowCheck.Proofs.Diagnostic.Encoding
import WorkflowCheck.Proofs.Discovery
import WorkflowCheck.Proofs.Run.Saves

/-! A snapshot belongs to one state. The reader that is used to show it goes as deep as the state
does, so that no limit on nesting comes in. -/

namespace WorkflowCheck

theorem State.readAll_snapshot (s : State) {n : Nat} (hn : s.toValue.depth ≤ n) :
    Json.readAll (Json.readValue n) s.snapshot = .ok s.toValue := by
  rw [snapshot, Json.pretty_eq]
  exact Json.readAll_write .lines s.exact_toValue hn (by simp [Json.Blank, Json.isBlank])

theorem State.snapshot_injective : Function.Injective State.snapshot := by
  intro s t h
  have hs := s.readAll_snapshot (Nat.le_max_left s.toValue.depth t.toValue.depth)
  have ht := t.readAll_snapshot (Nat.le_max_right s.toValue.depth t.toValue.depth)
  rw [h, ht] at hs
  exact State.toValue_injective (Except.ok.inj hs).symm

namespace Runner

theorem matched_withSnapshot (r : Runner) (case : FixtureCase) (t : State) :
    (r.examined (case.withSnapshot t.snapshot)).matched = true ↔
      r.engine.validate case.kind case.documentText = t := by
  have hm : (r.examined (case.withSnapshot t.snapshot)).matched = true ↔
      t.snapshot = (r.engine.validate case.kind case.documentText).snapshot := by
    simp only [examined, snapshotMatches, newSnapshot, FixtureCase.withSnapshot, FixtureCase.kind,
      beq_iff_eq]
  rw [hm, State.snapshot_injective.eq_iff, eq_comm]

end Runner

/-- Two states have the same snapshot only if they are the same. A fixture whose stored snapshot was
written for one state therefore matches if the engine finds that state, and only then. -/
theorem snapshot_identifies (r : Runner) (case : FixtureCase) (w : World) :
    (∀ s t : State, s.snapshot = t.snapshot ↔ s = t) ∧
      ∀ t : State,
        (w.streams.Unlimited → ∃ w' outcome,
          w.follow (r.examine (case.withSnapshot t.snapshot)) = (w', .ok outcome)) ∧
        ∀ w' outcome, w.follow (r.examine (case.withSnapshot t.snapshot)) = (w', .ok outcome) →
          (outcome.matched = true ↔ r.engine.validate case.kind case.documentText = t) := by
  refine ⟨fun s t => State.snapshot_injective.eq_iff, fun t => ?_⟩
  rw [Runner.examine_eq]
  refine ⟨fun hu => ?_, ?_⟩
  · have hsaves : saves (r.examination (case.withSnapshot t.snapshot)) = [] :=
      r.saves_examination _
    have hnone := w.performAll_of_unlimited (u := w.tree) (by rw [hsaves]; rfl) hu
    exact ⟨_, _, World.follow_eq_ok.mpr ⟨Prod.ext rfl hnone, rfl⟩⟩
  · intro w' outcome h
    obtain ⟨-, hresult⟩ := World.follow_eq_ok.mp h
    cases hresult
    exact r.matched_withSnapshot case t

namespace Nested

def runner : Runner := ⟨.fixed [.schema "any_of" none "/on" "t" none], .none⟩

def case : FixtureCase := ⟨Text.encode "r/a/x.yml", "on: 1\n", Text.encode "r/a/s", ""⟩

def world : World := ⟨.empty, .ofLimits none none, []⟩

/-- Like the state that the runner's engine finds, but with an empty list of nested states. -/
def state : State := ⟨.workflow, [.schema "any_of" none "/on" "t" (some [])]⟩

end Nested

theorem empty_states_mismatch : ∃ w' outcome,
    Nested.world.follow (Nested.runner.examine (Nested.case.withSnapshot Nested.state.snapshot)) =
      (w', .ok outcome) ∧ outcome.matched = false := by
  obtain ⟨w', outcome, h⟩ :=
    ((snapshot_identifies Nested.runner Nested.case Nested.world).2 Nested.state).1 ⟨rfl, rfl⟩
  have hiff :=
    ((snapshot_identifies Nested.runner Nested.case Nested.world).2 Nested.state).2 w' outcome h
  refine ⟨w', outcome, h, Bool.eq_false_iff.mpr fun hm => ?_⟩
  have := congrArg State.errors (hiff.mp hm)
  simp [Nested.state, Nested.runner, Engine.validate, Engine.fixed] at this

end WorkflowCheck
