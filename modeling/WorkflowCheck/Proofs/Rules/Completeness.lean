import WorkflowCheck.Proofs.Rules.Violation

/-! A check finds nothing exactly in the documents that keep to the schema, and in any other it
reports each violation once. -/

namespace WorkflowCheck.Rules

open Value (Step Ascending at?_singleton_key at?_object_key at?_key_eq_some at?_index_eq_some
  typeName_eq_object typeName_eq_array typeName_eq_string)

variable {document : Value} {kind : Kind} {entries : List (String × Value)}

theorem violates_at_root_iff {x : Violation} :
    Violates (.object entries) kind x ∧ x.steps = [] ↔
      (∃ key, key ∈ requiredKeys kind ∧ entries.lookup key = none ∧ x = .missing [] key) ∨
        ∃ key v, entries.lookup key = some v ∧ key ∉ allowedKeys kind ∧ x = .unknown key := by
  constructor
  · rintro ⟨h, hsteps⟩
    cases h with
    | missing required object absent =>
      cases required with
      | document hkey =>
        cases object
        exact .inl ⟨_, hkey, absent, rfl⟩
      | runsUsing => nomatch hsteps
    | unknown present excess => exact .inr ⟨_, _, at?_object_key.mp present, excess, rfl⟩
    | mistyped typed present wrong =>
      cases typed with
      | document =>
        cases present
        exact absurd (List.mem_singleton_self _) wrong
      | _ => nomatch hsteps
    | unresolved => nomatch hsteps
  · rintro (⟨key, hkey, absent, rfl⟩ | ⟨key, v, hlookup, excess, rfl⟩)
    · exact ⟨.missing (.document hkey) rfl absent, rfl⟩
    · exact ⟨.unknown (at?_object_key.mpr hlookup) excess, rfl⟩

theorem reports_missing {shape : Shape} (hrequired : shape.required = requiredKeys kind) :
    Reports kind
      (fun x => ∃ key, key ∈ requiredKeys kind ∧ entries.lookup key = none ∧ x = .missing [] key)
      ((shape.required.filter fun key => !hasKey key entries).map
        fun key => missing (Pointer.child "" key)) := by
  rw [hrequired]
  refine ⟨((requiredKeys kind).filter fun key => !hasKey key entries).map (.missing []), ?_, ?_, ?_⟩
  · rw [List.map_map]
    rfl
  · intro x
    simp only [List.mem_map, List.mem_filter, hasKey, Bool.not_eq_true', Option.isSome_eq_false_iff,
      Option.isNone_iff_eq_none, and_assoc, eq_comm (a := x)]
  · rw [List.pairwise_map, List.pairwise_iff_forall_sublist]
    exact fun h => .missing (h.trans List.filter_sublist)

theorem reports_unknown {shape : Shape} (hallowed : shape.allowed = allowedKeys kind)
    (hasc : Ascending entries) :
    Reports kind
      (fun x => ∃ key v, entries.lookup key = some v ∧ key ∉ allowedKeys kind ∧ x = .unknown key)
      (((entries.map (·.1)).filter fun key => !shape.allowed.contains key).map unknownKey) := by
  rw [hallowed]
  refine ⟨((entries.map (·.1)).filter fun key => !(allowedKeys kind).contains key).map .unknown,
    ?_, ?_, ?_⟩
  · rw [List.map_map]
    rfl
  · intro x
    simp only [List.mem_map, List.mem_filter, hasc.lookup_eq_some]
    constructor
    · rintro ⟨key, ⟨⟨e, he, rfl⟩, hkey⟩, rfl⟩
      exact ⟨e.1, e.2, he, by simpa using hkey, rfl⟩
    · rintro ⟨key, v, he, hkey, rfl⟩
      exact ⟨key, ⟨⟨(key, v), he, rfl⟩, by simpa using hkey⟩, rfl⟩
  · rw [List.pairwise_map]
    refine (hasc.sublist List.filter_sublist).imp fun hlt => ?_
    exact .unknown (Text.encode_lt_encode_iff.mpr hlt)

theorem reports_checkKeys (shape : Shape) (hrequired : shape.required = requiredKeys kind)
    (hallowed : shape.allowed = allowedKeys kind) (hasc : Ascending entries) :
    Reports kind (fun x => Violates (.object entries) kind x ∧ x.steps = [])
      (checkKeys shape entries) := by
  refine ((reports_missing hrequired).append (reports_unknown hallowed hasc) ?_).congr
    fun x => violates_at_root_iff
  rintro x y ⟨a, -, -, rfl⟩ ⟨b, v, -, -, rfl⟩
  exact .stage Nat.zero_lt_one

theorem reports_checkAt {key : String} {check : Value → List Diagnostic}
    (h : ∀ v, (Value.object entries).at? [.key key] = some v →
      Reports kind (fun x => Violates (.object entries) kind x ∧ x.Under key) (check v)) :
    Reports kind (fun x => Violates (.object entries) kind x ∧ x.Under key)
      (checkAt key entries check) := by
  unfold checkAt
  split
  · next hnone =>
    refine .nil fun x hx => ?_
    obtain ⟨v, hv⟩ := hx.1.present_of_under hx.2
    rw [at?_object_key, hnone] at hv
    nomatch hv
  · next v hsome => exact h v (at?_object_key.mpr hsome)

theorem stage_of_steps_nil {x : Violation} (h : Violates (.object entries) kind x) (hs : x.steps = []) :
    x.stage ≤ 1 := by
  rcases violates_at_root_iff.mp ⟨h, hs⟩ with ⟨key, -, -, rfl⟩ | ⟨key, v, -, -, rfl⟩
  · exact Nat.zero_le 1
  · exact Nat.le_refl 1

theorem violates_action_iff {x : Violation} :
    Violates (.object entries) .action x ↔
      (Violates (.object entries) .action x ∧ x.steps = []) ∨
        Violates (.object entries) .action x ∧ x.Under "runs" := by
  rw [← and_or_left, iff_self_and]
  intro h
  cases h with
  | missing required => cases required with
    | document => exact .inl rfl
    | runsUsing => exact .inr ⟨[], rfl⟩
  | unknown => exact .inl rfl
  | mistyped typed => cases typed with
    | document => exact .inl rfl
    | runs => exact .inr ⟨[], rfl⟩
    | runsUsing => exact .inr ⟨_, rfl⟩

theorem violates_workflow_iff {x : Violation} :
    Violates (.object entries) .workflow x ↔
      ((Violates (.object entries) .workflow x ∧ x.steps = []) ∨
        Violates (.object entries) .workflow x ∧ x.Under "on") ∨
        Violates (.object entries) .workflow x ∧ x.Under "jobs" := by
  rw [← and_or_left, ← and_or_left, iff_self_and]
  intro h
  cases h with
  | missing required => cases required with
    | document => exact .inl (.inl rfl)
  | unknown => exact .inl (.inl rfl)
  | mistyped typed => cases typed with
    | document => exact .inl (.inl rfl)
    | on => exact .inl (.inr ⟨[], rfl⟩)
    | _ => exact .inr ⟨_, rfl⟩
  | unresolved => exact .inr ⟨_, rfl⟩

theorem check_of_not_object (kind : Kind) (h : ∀ entries, document ≠ .object entries) :
    check kind document = [wrongType "" "object" document] := by
  cases document with
  | object entries => exact absurd rfl (h entries)
  | _ => cases kind <;> rfl

theorem violates_iff_of_not_object (h : ∀ entries, document ≠ .object entries) {x : Violation} :
    Violates document kind x ↔ x = .mistyped [] ["object"] document := by
  have hnone (key : String) (rest : List Step) : document.at? (.key key :: rest) = none := by
    cases document with
    | object entries => exact absurd rfl (h entries)
    | _ => rfl
  constructor
  · intro hx
    cases hx with
    | missing required object => cases required with
      | document => exact absurd (Option.some.inj object) (h _)
      | runsUsing => simp [hnone] at object
    | unknown present => simp [hnone] at present
    | mistyped typed present => cases typed with
      | document =>
        cases present
        rfl
      | _ => simp [hnone] at present
    | unresolved present => simp [needSteps, hnone] at present
  · rintro rfl
    refine .mistyped (.document kind) rfl ?_
    simpa [Value.typeName_eq_object] using h

theorem reports_check (h : document.Ordered) (kind : Kind) :
    Reports kind (Violates document kind) (check kind document) := by
  by_cases hobject : ∃ entries, document = .object entries
  · obtain ⟨entries, rfl⟩ := hobject
    rw [Value.Ordered] at h
    cases kind with
    | action =>
      refine ((reports_checkKeys .action rfl rfl h.1).append
        (reports_checkAt fun v hv => reports_checkRuns hv) ?_).congr
        fun x => violates_action_iff
      rintro x y ⟨hx, hs⟩ ⟨-, hu⟩
      have hstage := stage_of_steps_nil hx hs
      exact .stage (by rw [Violation.stage_of_under hu]; split <;> omega)
    | workflow =>
      have hjobs {v : Value} (hv : (Value.object entries).at? [.key "jobs"] = some v)
          (jobs : List (String × Value)) (hobject : v = .object jobs) : Ascending jobs := by
        have hentry := h.1.lookup_eq_some.mp (at?_object_key.mp hv)
        have hv' := Value.orderedEntries_iff.mp h.2 _ hentry
        rw [hobject, Value.Ordered] at hv'
        exact hv'.1
      refine (((reports_checkKeys .workflow rfl rfl h.1).append
        (reports_checkAt fun v hv => reports_checkOn hv) ?_).append
        (reports_checkAt fun v hv => reports_checkJobs hv (hjobs hv)) ?_).congr
        fun x => violates_workflow_iff
      · rintro x y ⟨hx, hs⟩ ⟨-, hu⟩
        have hstage := stage_of_steps_nil hx hs
        exact .stage (by rw [Violation.stage_of_under hu]; split <;> omega)
      · rintro x y (⟨hx, hs⟩ | ⟨-, hu'⟩) ⟨-, hu⟩
        · have hstage := stage_of_steps_nil hx hs
          exact .stage (by rw [Violation.stage_of_under hu]; split <;> omega)
        · exact .stage (by rw [Violation.stage_of_under hu, Violation.stage_of_under hu']; decide)
  · have hne : ∀ entries, document ≠ .object entries := fun entries he => hobject ⟨entries, he⟩
    rw [check_of_not_object kind hne]
    exact .singleton (y := .mistyped [] ["object"] document) fun x => violates_iff_of_not_object hne

/-- What it means for each part of the schema that nothing violates it. -/
structure Conforms (document : Value) (kind : Kind) : Prop where
  required : ∀ steps key entries, Requires kind steps key →
    document.at? steps = some (.object entries) → ∃ v, entries.lookup key = some v
  allowed : ∀ key v, document.at? [.key key] = some v → key ∈ allowedKeys kind
  typed : ∀ steps types v, Typed kind steps types → document.at? steps = some v → v.typeName ∈ types
  resolved : kind = .workflow → ∀ job index need,
    document.at? (needSteps job index) = some (.string need) → IsJob document need

theorem conforms_iff : Conforms document kind ↔ ∀ x, ¬Violates document kind x := by
  constructor
  · intro h x hx
    cases hx with
    | missing required object absent =>
      obtain ⟨v, hv⟩ := h.required _ _ _ required object
      rw [hv] at absent
      nomatch absent
    | unknown present excess => exact excess (h.allowed _ _ present)
    | mistyped typed present wrong => exact wrong (h.typed _ _ _ typed present)
    | unresolved present dangling => exact dangling (h.resolved rfl _ _ _ present)
  · intro h
    constructor
    case required =>
      intro steps key entries hrequired hobject
      by_contra hnone
      refine h _ (.missing hrequired hobject ?_)
      rw [Option.eq_none_iff_forall_ne_some]
      exact fun v hv => hnone ⟨v, hv⟩
    case allowed =>
      intro key v hv
      by_contra hexcess
      exact h _ (.unknown hv hexcess)
    case typed =>
      intro steps types v htyped hv
      by_contra hwrong
      exact h _ (.mistyped htyped hv hwrong)
    case resolved =>
      rintro rfl job index need hneed
      by_contra hdangling
      exact h _ (.unresolved hneed hdangling)

namespace Conforms

theorem exists_object (h : Conforms document kind) : ∃ entries, document = .object entries :=
  typeName_eq_object.mp (List.mem_singleton.mp (h.typed _ _ _ (.document kind) rfl))

theorem exists_of_required (h : Conforms document kind) (key : String) (hkey : key ∈ requiredKeys kind) :
    ∃ v, document.at? [.key key] = some v := by
  obtain ⟨entries, rfl⟩ := h.exists_object
  obtain ⟨v, hv⟩ := h.required _ _ _ (.document hkey) rfl
  exact ⟨v, at?_singleton_key.mpr ⟨entries, rfl, hv⟩⟩

theorem exists_object_at (h : Conforms document kind) {steps : List Step} {v : Value}
    (htyped : Typed kind steps ["object"]) (hv : document.at? steps = some v) :
    ∃ entries, v = .object entries :=
  typeName_eq_object.mp (List.mem_singleton.mp (h.typed _ _ _ htyped hv))

theorem exists_string_at (h : Conforms document kind) {steps : List Step} {v : Value}
    (htyped : Typed kind steps ["string"]) (hv : document.at? steps = some v) :
    ∃ text, v = .string text :=
  typeName_eq_string.mp (List.mem_singleton.mp (h.typed _ _ _ htyped hv))

end Conforms

theorem lookup_of_required (kind : Kind) {key : String}
    (hrequired : ∀ key ∈ requiredKeys kind, ∃ v, (Value.object entries).at? [.key key] = some v)
    (hkey : key ∈ requiredKeys kind) : ∃ v, entries.lookup key = some v := by
  obtain ⟨v, hv⟩ := hrequired key hkey
  exact ⟨v, at?_object_key.mp hv⟩

theorem isAction_iff : IsAction document ↔ Conforms document .action := by
  have husing {v : Value} : document.at? ([.key "runs"] ++ [.key "using"]) = some v ↔
      ∃ entries, document.at? [.key "runs"] = some (.object entries) ∧
        entries.lookup "using" = some v := at?_key_eq_some
  constructor
  · rintro ⟨hrequired, hallowed, runs, text, hruns, hlookup⟩
    constructor
    case required =>
      intro steps key entries hrequires hobject
      cases hrequires with
      | document hkey =>
        cases hobject
        exact lookup_of_required .action hrequired hkey
      | runsUsing =>
        cases Option.some.inj (hruns.symm.trans hobject)
        exact ⟨_, hlookup⟩
    case allowed => exact hallowed
    case typed =>
      intro steps types v htyped hv
      cases htyped with
      | document =>
        obtain ⟨entries, rfl, -⟩ := at?_singleton_key.mp hruns
        cases hv
        exact List.mem_singleton_self _
      | runs =>
        cases Option.some.inj (hruns.symm.trans hv)
        exact List.mem_singleton_self _
      | runsUsing =>
        obtain ⟨_, hobject, husing⟩ := husing.mp hv
        cases Option.some.inj (hruns.symm.trans hobject)
        cases Option.some.inj (hlookup.symm.trans husing)
        exact List.mem_singleton_self _
    case resolved => exact fun h => nomatch h
  · intro h
    constructor
    case required => exact h.exists_of_required
    case allowed => exact h.allowed
    case runs =>
      obtain ⟨v, hv⟩ := h.exists_of_required "runs" (by decide)
      obtain ⟨entries, rfl⟩ := h.exists_object_at .runs hv
      obtain ⟨w, hw⟩ := h.required _ _ _ .runsUsing hv
      obtain ⟨text, rfl⟩ := h.exists_string_at .runsUsing (husing.mpr ⟨entries, hv, hw⟩)
      exact ⟨entries, text, hv, hw⟩

theorem isWorkflow_iff : IsWorkflow document ↔ Conforms document .workflow := by
  have hitem {job : String} {i : Nat} {v : Value} :
      document.at? ([.key "jobs", .key job, .key "needs"] ++ [.index i]) = some v ↔
        ∃ items, document.at? [.key "jobs", .key job, .key "needs"] = some (.array items) ∧
          items[i]? = some v := at?_index_eq_some
  constructor
  · rintro ⟨hrequired, hallowed, hon, ⟨jobs, hjobs⟩, hjob, hneeds⟩
    have hneed {job : String} {i : Nat} {v : Value}
        (hv : document.at? [.key "jobs", .key job, .key "needs", .index i] = some v) :
        ∃ need, v = .string need ∧ IsJob document need := by
      obtain ⟨items, hitems, hget⟩ := hitem.mp hv
      rcases hneeds job _ hitems with ⟨need, he, -⟩ | ⟨_, he, hall⟩
      · cases he
      · cases he
        exact hall v (List.mem_of_getElem? hget)
    constructor
    case required =>
      intro steps key entries hrequires hobject
      cases hrequires with
      | document hkey =>
        cases hobject
        exact lookup_of_required .workflow hrequired hkey
    case allowed => exact hallowed
    case typed =>
      intro steps types v htyped hv
      cases htyped with
      | document =>
        obtain ⟨entries, rfl, -⟩ := at?_singleton_key.mp hjobs
        cases hv
        exact List.mem_singleton_self _
      | on => rcases hon v hv with ⟨text, rfl⟩ | ⟨items, rfl⟩ | ⟨entries, rfl⟩ <;> simp [Value.typeName]
      | jobs =>
        cases Option.some.inj (hjobs.symm.trans hv)
        exact List.mem_singleton_self _
      | job name =>
        obtain ⟨entries, rfl⟩ := hjob name v hv
        exact List.mem_singleton_self _
      | needs job => rcases hneeds job v hv with ⟨need, rfl, -⟩ | ⟨items, rfl, -⟩ <;> simp [Value.typeName]
      | need job i =>
        obtain ⟨need, rfl, -⟩ := hneed hv
        exact List.mem_singleton_self _
    case resolved =>
      intro _ job index need hv
      cases index with
      | none =>
        rcases hneeds job _ hv with ⟨_, he, hresolved⟩ | ⟨items, he, -⟩
        · cases he
          exact hresolved
        · cases he
      | some i =>
        obtain ⟨_, he, hresolved⟩ := hneed hv
        cases he
        exact hresolved
  · intro h
    constructor
    case required => exact h.exists_of_required
    case allowed => exact h.allowed
    case on =>
      intro v hv
      simpa [typeName_eq_string, typeName_eq_array, typeName_eq_object] using h.typed _ _ _ .on hv
    case jobs =>
      obtain ⟨v, hv⟩ := h.exists_of_required "jobs" (by decide)
      obtain ⟨jobs, rfl⟩ := h.exists_object_at .jobs hv
      exact ⟨jobs, hv⟩
    case job => exact fun name v hv => h.exists_object_at (.job name) hv
    case needs =>
      intro job v hv
      have htype := h.typed _ _ _ (.needs job) hv
      simp only [List.mem_cons, List.not_mem_nil, or_false, typeName_eq_string, typeName_eq_array] at htype
      rcases htype with ⟨need, rfl⟩ | ⟨items, rfl⟩
      · exact .inl ⟨need, rfl, h.resolved rfl job none need hv⟩
      · refine .inr ⟨items, rfl, fun item hmem => ?_⟩
        obtain ⟨i, hget⟩ := List.mem_iff_getElem?.mp hmem
        have hi := hitem.mpr ⟨items, hv, hget⟩
        obtain ⟨need, rfl⟩ := h.exists_string_at (.need job i) hi
        exact ⟨need, rfl, h.resolved rfl job (some i) need hi⟩

/-- In a document whose objects are in order, a check finds nothing exactly where the schema is kept.
Otherwise it finds each violation once, in the only order in which each comes before all later
ones. -/
theorem check_exact (h : document.Ordered) :
    (check .action document = [] ↔ IsAction document) ∧
      (check .workflow document = [] ↔ IsWorkflow document) ∧
      (∀ kind, ∃ violations : List Violation,
        check kind document = violations.map Violation.diagnostic ∧
          (∀ x, x ∈ violations ↔ Violates document kind x) ∧ violations.Nodup ∧
          violations.Pairwise (Violation.Before kind) ∧
          ∀ others : List Violation, (∀ x, x ∈ others ↔ Violates document kind x) →
            others.Pairwise (Violation.Before kind) → others = violations) ∧
      ((∀ entries, document ≠ .object entries) →
        ∀ kind, check kind document = [wrongType "" "object" document]) := by
  have haccepts (kind : Kind) : check kind document = [] ↔ Conforms document kind :=
    (reports_check h kind).eq_nil_iff.trans conforms_iff.symm
  refine ⟨(haccepts .action).trans isAction_iff.symm, (haccepts .workflow).trans isWorkflow_iff.symm,
    fun kind => ?_, fun hne kind => check_of_not_object kind hne⟩
  obtain ⟨violations, hfound, hmem, hbefore⟩ := reports_check h kind
  refine ⟨violations, hfound, hmem, Violation.nodup_of_before hbefore, hbefore, ?_⟩
  exact fun others hothers hbefore' => Violation.eq_of_mem_iff hothers hmem hbefore' hbefore

/-- Violations next to each other at every stage, one of them twice. -/
def crowded : Value := .sorted <| .object [("on", .null), ("extra", .null), ("jobs", .object
  [("a/b", .object [("needs", .array [.string "~1", .null, .string "~1", .string ""])]),
    ("", .object []), ("list", .array [])])]

theorem crowded_check : crowded.Ordered ∧ ¬IsWorkflow crowded ∧
    (check .workflow crowded).map Diagnostic.path? = ["/extra", "/on", "/jobs/a~1b/needs",
      "/jobs/a~1b/needs/1", "/jobs/a~1b/needs", "/jobs/list"].map some := by
  have hpaths : (check .workflow crowded).map Diagnostic.path? = ["/extra", "/on",
      "/jobs/a~1b/needs", "/jobs/a~1b/needs/1", "/jobs/a~1b/needs", "/jobs/list"].map some := by
    decide +kernel
  have hordered : crowded.Ordered := Value.ordered_sorted _
  refine ⟨hordered, fun h => ?_, hpaths⟩
  rw [(check_exact hordered).2.1.mpr h] at hpaths
  nomatch hpaths

end WorkflowCheck.Rules
