import WorkflowCheck.Engine
import WorkflowCheck.Proofs.Diagnostic.Encoding
import WorkflowCheck.Proofs.Rules.Finding

/-! The built-in engine finds diagnostics of two depths alone: plain ones, and ones with a plain one
for each alternative. -/

namespace WorkflowCheck

open Value

theorem depthOfItems_le_iff {items : List Value} {n : Nat} :
    depthOfItems items ≤ n ↔ ∀ v ∈ items, v.depth ≤ n := by
  induction items with
  | nil => simp [depthOfItems]
  | cons v rest ih => simp only [depthOfItems, Nat.max_le, ih, List.forall_mem_cons]

theorem depthOfItems_diagnosticValues_le {errors : List Diagnostic} {n : Nat} :
    depthOfItems (diagnosticValues errors) ≤ n ↔ ∀ d ∈ errors, d.toValue.depth ≤ n := by
  simp [depthOfItems_le_iff, diagnosticValues_eq]

/-- Nothing is nested in it but, at most, plain diagnostics. -/
def Diagnostic.Shallow (d : Diagnostic) : Prop := d.toValue.depth ≤ 5

theorem State.depth_le {s : State} (h : ∀ d ∈ s.errors, d.Shallow) : s.toValue.depth ≤ 7 := by
  have := depthOfItems_diagnosticValues_le.mpr h
  simp only [State.toValue, depth, depthOfEntries]
  omega

namespace Rules

theorem depth_ofRule (code path title : String) :
    (Diagnostic.ofRule code path title).toValue.depth = 1 := by
  simp [Diagnostic.ofRule, Diagnostic.toValue, optionalEntry, depth, depthOfEntries]

theorem depth_ofRule_withDetail (code path title text : String) :
    ((Diagnostic.ofRule code path title).withDetail text).toValue.depth = 1 := by
  simp [Diagnostic.ofRule, Diagnostic.withDetail, Diagnostic.toValue, optionalEntry, depth,
    depthOfEntries]

theorem depth_wrongType (path expected : String) (actual : Value) :
    (wrongType path expected actual).toValue.depth = 1 :=
  depth_ofRule_withDetail _ _ _ _

theorem depth_noneOf_le (path : String) (alternatives : List String) (actual : Value) :
    (noneOf path alternatives actual).toValue.depth ≤ 5 := by
  have hstates : depthOfItems (nestedStateValues
      (alternatives.map fun expected => .mk [wrongType path expected actual])) ≤ 3 := by
    rw [depthOfItems_le_iff, nestedStateValues_eq]
    intro v hv
    simp only [List.map_map, List.mem_map, Function.comp_apply] at hv
    obtain ⟨expected, -, rfl⟩ := hv
    simp [NestedState.toValue, diagnosticValues, depth, depthOfEntries, depthOfItems,
      depth_wrongType]
  simp only [noneOf, Diagnostic.ofRule, Diagnostic.withStates, Diagnostic.toValue, optionalEntry,
    Option.map_none, List.nil_append, depth, depthOfEntries]
  omega

theorem Finding.shallow {d : Diagnostic} (h : Finding d) : d.Shallow := by
  cases h with
  | missing path => exact Nat.le_trans (Nat.le_of_eq (depth_ofRule _ _ _)) (by decide)
  | unknownKey key => exact Nat.le_trans (Nat.le_of_eq (depth_ofRule_withDetail _ _ _ _)) (by decide)
  | wrongType path expected actual => exact Nat.le_trans (Nat.le_of_eq (depth_wrongType _ _ _)) (by decide)
  | noneOf path alternatives actual => exact depth_noneOf_le path alternatives actual
  | unresolvedJob path need => exact Nat.le_trans (Nat.le_of_eq (depth_ofRule_withDetail _ _ _ _)) (by decide)

end Rules

theorem Yaml.Fault.shallow_diagnostic (fault : Yaml.Fault) : fault.diagnostic.Shallow := by
  unfold Yaml.Fault.diagnostic Diagnostic.Shallow
  cases fault.location? <;>
    simp [Diagnostic.toValue, optionalEntry, Location.toValue, depth, depthOfEntries]

theorem Engine.depth_builtin_le (kind : Kind) (text : String) :
    (Engine.builtin.validate kind text).toValue.depth ≤ 7 := by
  apply State.depth_le
  intro d hd
  unfold Engine.validate Engine.builtin at hd
  dsimp only at hd
  split at hd
  · exact (Rules.finding_of_mem_check hd).shallow
  · exact List.mem_singleton.mp hd ▸ Yaml.Fault.shallow_diagnostic _

end WorkflowCheck
