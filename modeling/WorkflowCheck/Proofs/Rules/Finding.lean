import WorkflowCheck.Rules

/-! The forms of what the rules find. Nothing else comes out of a check. -/

namespace WorkflowCheck.Rules

inductive Finding : Diagnostic → Prop where
  | missing (path : String) : Finding (missing path)
  | unknownKey (key : String) : Finding (unknownKey key)
  | wrongType (path expected : String) (actual : Value) : Finding (wrongType path expected actual)
  | noneOf (path : String) (alternatives : List String) (actual : Value) :
    Finding (noneOf path alternatives actual)
  | unresolvedJob (path need : String) : Finding (unresolvedJob path need)

variable {d : Diagnostic}

theorem finding_of_mem_checkKeys {shape : Shape} {entries : List (String × Value)}
    (h : d ∈ checkKeys shape entries) : Finding d := by
  simp only [checkKeys, List.mem_append, List.mem_map] at h
  rcases h with ⟨key, -, rfl⟩ | ⟨key, -, rfl⟩
  · exact .missing _
  · exact .unknownKey key

theorem finding_of_mem_checkRuns {runs : Value} (h : d ∈ checkRuns runs) : Finding d := by
  unfold checkRuns at h
  split at h
  · split at h
    · exact List.mem_singleton.mp h ▸ .missing _
    · contradiction
    · exact List.mem_singleton.mp h ▸ .wrongType _ _ _
  · exact List.mem_singleton.mp h ▸ .wrongType _ _ _

theorem finding_of_mem_checkOn {on : Value} (h : d ∈ checkOn on) : Finding d := by
  unfold checkOn at h
  split at h
  · contradiction
  · contradiction
  · contradiction
  · exact List.mem_singleton.mp h ▸ .noneOf _ _ _

theorem finding_of_mem_checkNeed {jobs : List (String × Value)} {path need : String}
    (h : d ∈ checkNeed jobs path need) : Finding d := by
  unfold checkNeed at h
  split at h
  · contradiction
  · exact List.mem_singleton.mp h ▸ .unresolvedJob _ _

theorem finding_of_mem_checkNeedItems {jobs : List (String × Value)} {path : String} {i : Nat}
    {items : List Value} (h : d ∈ checkNeedItems jobs path i items) : Finding d := by
  induction items generalizing i with
  | nil => contradiction
  | cons v rest ih =>
    unfold checkNeedItems at h
    split at h
    · contradiction
    · rename_i heq
      cases heq
      rcases List.mem_append.mp h with h | h
      · exact finding_of_mem_checkNeed h
      · exact ih h
    · rename_i heq
      cases heq
      rcases List.mem_cons.mp h with rfl | h
      · exact .wrongType _ _ _
      · exact ih h

theorem finding_of_mem_checkNeeds {jobs : List (String × Value)} {path : String} {needs : Value}
    (h : d ∈ checkNeeds jobs path needs) : Finding d := by
  unfold checkNeeds at h
  split at h
  · exact finding_of_mem_checkNeed h
  · exact finding_of_mem_checkNeedItems h
  · exact List.mem_singleton.mp h ▸ .noneOf _ _ _

theorem finding_of_mem_checkJob {jobs : List (String × Value)} {name : String} {job : Value}
    (h : d ∈ checkJob jobs name job) : Finding d := by
  unfold checkJob at h
  split at h
  · split at h
    · contradiction
    · exact finding_of_mem_checkNeeds h
  · exact List.mem_singleton.mp h ▸ .wrongType _ _ _

theorem finding_of_mem_checkJobs {jobs : Value} (h : d ∈ checkJobs jobs) : Finding d := by
  unfold checkJobs at h
  split at h
  · obtain ⟨e, -, he⟩ := List.mem_flatMap.mp h
    exact finding_of_mem_checkJob he
  · exact List.mem_singleton.mp h ▸ .wrongType _ _ _

theorem finding_of_mem_checkAt {key : String} {entries : List (String × Value)}
    {check : Value → List Diagnostic} (hc : ∀ {v}, d ∈ check v → Finding d)
    (h : d ∈ checkAt key entries check) : Finding d := by
  unfold checkAt at h
  split at h
  · contradiction
  · exact hc h

theorem finding_of_mem_check {kind : Kind} {value : Value} (h : d ∈ check kind value) :
    Finding d := by
  cases kind with
  | action =>
    simp only [check, checkAction] at h
    split at h
    · rcases List.mem_append.mp h with h | h
      · exact finding_of_mem_checkKeys h
      · exact finding_of_mem_checkAt finding_of_mem_checkRuns h
    · exact List.mem_singleton.mp h ▸ .wrongType _ _ _
  | workflow =>
    simp only [check, checkWorkflow] at h
    split at h
    · simp only [List.mem_append] at h
      rcases h with (h | h) | h
      · exact finding_of_mem_checkKeys h
      · exact finding_of_mem_checkAt finding_of_mem_checkOn h
      · exact finding_of_mem_checkAt finding_of_mem_checkJobs h
    · exact List.mem_singleton.mp h ▸ .wrongType _ _ _

end WorkflowCheck.Rules
