import WorkflowCheck.Proofs.Rules.Pointing

/-! One pointer for each place of a document, and one diagnostic for each violation. A pointer gives
back the texts of its steps, but a key and a position can have one text. What keeps them apart is the
value that they lead from. -/

namespace WorkflowCheck

namespace Value

variable {document : Value} {step : Step} {rest : List Step}

/-- The places of a document: those of its values, and those below its objects where a key may be
missing. -/
inductive IsPlace (document : Value) : List Step → Prop where
  | value {steps : List Step} {v : Value} (present : document.at? steps = some v) :
    IsPlace document steps
  | key {steps : List Step} {entries : List (String × Value)} (key : String)
    (object : document.at? steps = some (.object entries)) : IsPlace document (steps ++ [.key key])

/-- The steps that there can be from a value. -/
def Leads : Value → Step → Prop
  | .object _, .key _ => True
  | .array _, .index _ => True
  | _, _ => False

theorem leads_of_step? {v : Value} (h : document.step? step = some v) : document.Leads step := by
  unfold step? at h
  split at h
  · exact trivial
  · exact trivial
  · nomatch h

theorem Leads.exists_key {key : String} (h : document.Leads (.key key)) :
    ∃ entries, document = .object entries := by
  cases document with
  | object entries => exact ⟨entries, rfl⟩
  | _ => exact h.elim

theorem Leads.exists_index {index : Nat} (h : document.Leads (.index index)) :
    ∃ items, document = .array items := by
  cases document with
  | array items => exact ⟨items, rfl⟩
  | _ => exact h.elim

/-- No value has both keys and positions. -/
theorem Leads.not_key_index {key : String} {index : Nat} (h : document.Leads (.key key))
    (h' : document.Leads (.index index)) : False := by
  obtain ⟨entries, hobject⟩ := h.exists_key
  obtain ⟨items, harray⟩ := h'.exists_index
  rw [hobject] at harray
  nomatch harray

theorem Leads.eq_of_text_eq {step' : Step} (h : document.Leads step) (h' : document.Leads step')
    (htext : step.text = step'.text) : step = step' := by
  cases step with
  | key key =>
    cases step' with
    | key key' => exact congrArg Step.key htext
    | index i => exact (h.not_key_index h').elim
  | index i =>
    cases step' with
    | key key => exact (h'.not_key_index h).elim
    | index j => exact congrArg Step.index (Nat.repr_injective htext)

theorem exists_of_at?_cons {w : Value} (h : document.at? (step :: rest) = some w) :
    ∃ v, document.step? step = some v ∧ v.at? rest = some w :=
  Option.bind_eq_some_iff.mp h

/-- A place below a document is a place below the value that its first step leads to. -/
theorem IsPlace.cons (h : document.IsPlace (step :: rest)) :
    document.Leads step ∧ (rest = [] ∨ ∃ v, document.step? step = some v ∧ v.IsPlace rest) := by
  generalize hsteps : step :: rest = steps at h
  cases h with
  | value present =>
    subst hsteps
    obtain ⟨v, hstep, hrest⟩ := exists_of_at?_cons present
    exact ⟨leads_of_step? hstep, .inr ⟨v, hstep, .value hrest⟩⟩
  | @key front entries key object =>
    cases front with
    | nil =>
      obtain ⟨rfl, rfl⟩ := List.cons.inj hsteps
      cases Option.some.inj object
      exact ⟨trivial, .inl rfl⟩
    | cons first front =>
      obtain ⟨rfl, rfl⟩ := List.cons.inj hsteps
      obtain ⟨v, hstep, hfront⟩ := exists_of_at?_cons object
      exact ⟨leads_of_step? hstep, .inr ⟨v, hstep, .key key hfront⟩⟩

theorem IsPlace.eq_of_map_text_eq {steps steps' : List Step} (h : document.IsPlace steps)
    (h' : document.IsPlace steps') (htexts : steps.map Step.text = steps'.map Step.text) :
    steps = steps' := by
  induction steps generalizing document steps' with
  | nil => exact (List.map_eq_nil_iff.mp htexts.symm).symm
  | cons step rest ih =>
    cases steps' with
    | nil => nomatch htexts
    | cons step' rest' =>
      obtain ⟨htext, hrests⟩ := List.cons.inj htexts
      obtain ⟨hleads, hbelow⟩ := h.cons
      obtain ⟨hleads', hbelow'⟩ := h'.cons
      -- Both first steps lead from one value, so one text is one step and leads to one value.
      obtain rfl : step = step' := hleads.eq_of_text_eq hleads' htext
      rcases hbelow with rfl | ⟨v, hv, hplace⟩
      · rw [List.map_eq_nil_iff.mp hrests.symm]
      · rcases hbelow' with rfl | ⟨v', hv', hplace'⟩
        · rw [List.map_eq_nil_iff.mp hrests]
        · obtain rfl : v = v' := Option.some.inj (hv.symm.trans hv')
          rw [ih hplace hplace' hrests]

end Value

namespace Rules

open Value (Step)

theorem pointerTo_eq_iff {document : Value} {steps steps' : List Step} (h : document.IsPlace steps)
    (h' : document.IsPlace steps') : pointerTo steps = pointerTo steps' ↔ steps = steps' :=
  ⟨fun heq => h.eq_of_map_text_eq h' (Pointer.ofSteps_injective heq), congrArg pointerTo⟩

/-- Steps are read back from their pointer, whatever characters they hold: it begins at the root,
before the first slash, and between the slashes stands one step after another. So no two lists of
steps have one pointer, and no two places of a document. -/
theorem pointer_tells_places_apart :
    (∀ path : List String, (Pointer.splitSteps (path.foldl Pointer.child "").toList).map
        (fun piece => Pointer.unescape (String.ofList piece)) = "" :: path) ∧
      Function.Injective Pointer.ofSteps ∧
      ∀ (document : Value) (steps steps' : List Step), document.IsPlace steps →
        document.IsPlace steps' → steps ≠ steps' → pointerTo steps ≠ pointerTo steps' := by
  refine ⟨fun path => ?_, Pointer.ofSteps_injective, fun document steps steps' h h' hne heq => ?_⟩
  · have hroot : Pointer.splitSteps "".toList = [[]] := rfl
    have hread : ∀ step : String,
        Pointer.unescape (String.ofList (Pointer.escape step).toList) = step := by
      intro step
      rw [String.ofList_toList, Pointer.unescape_escape]
    rw [Pointer.splitSteps_foldl_child, hroot, List.map_append, List.map_map]
    simp only [Function.comp_def, hread, List.map_id']
    rfl
  · exact hne ((pointerTo_eq_iff h h').mp heq)

/-- A position and a missing key of one text, below two keys that would have one pointer if slashes
were escaped before tildes. -/
theorem escaped_places_apart :
    let document : Value := .object [("~1", .array [.null]), ("/", .object [])]
    document.IsPlace [.key "~1", .index 0] ∧ document.IsPlace [.key "/", .key "0"] ∧
      pointerTo [.key "~1", .index 0] ≠ pointerTo [.key "/", .key "0"] := by
  intro document
  have hvalue : document.at? [.key "~1", .index 0] = some .null := by cbv
  have hobject : document.at? [.key "/"] = some (.object []) := by cbv
  have hposition : document.IsPlace [.key "~1", .index 0] := .value hvalue
  have hmissing : document.IsPlace [.key "/", .key "0"] := .key "0" hobject
  have hne : [Step.key "~1", .index 0] ≠ [.key "/", .key "0"] := by decide
  exact ⟨hposition, hmissing,
    pointer_tells_places_apart.2.2 document _ _ hposition hmissing hne⟩

section

variable {document : Value} {kind : Kind} {x y : Violation}

/-- A value at a place may have the types of that place only. -/
theorem Typed.types_eq {steps : List Step} {types types' : List String} (h : Typed kind steps types)
    (h' : Typed kind steps types') : types = types' := by
  generalize hsteps : steps = steps' at h'
  cases h <;> cases h' <;> first | rfl | simp at hsteps

namespace Violation

/-- Where the diagnostic of a violation points. All needs of one job have one place. -/
def place : Violation → List Step
  | .missing steps key => steps ++ [.key key]
  | .unknown key => [.key key]
  | .mistyped steps _ _ => steps
  | .unresolved job _ _ => needSteps job none

/-- The codes that the diagnostic of such a violation can have. -/
def codes : Violation → List String
  | .missing .. => ["required"]
  | .unknown .. => ["additional_properties"]
  | .mistyped .. => ["wrong_type", "any_of"]
  | .unresolved .. => ["unresolved_job"]

theorem path?_diagnostic (x : Violation) : x.diagnostic.path? = some (pointerTo x.place) := by
  cases x with
  | mistyped steps types actual => rcases types with _ | ⟨_, _ | ⟨_, _⟩⟩ <;> rfl
  | _ => rfl

theorem code_diagnostic_mem (x : Violation) : x.diagnostic.code ∈ x.codes := by
  cases x with
  | mistyped steps types actual =>
    rcases types with _ | ⟨_, _ | ⟨_, _⟩⟩
    · exact .tail _ (.head _)
    · exact .head _
    · exact .tail _ (.head _)
  | _ => exact List.mem_singleton_self _

theorem codes_eq_of_diagnostic_eq (h : x.diagnostic = y.diagnostic) : x.codes = y.codes := by
  have hx := x.code_diagnostic_mem
  have hy := y.code_diagnostic_mem
  rw [h] at hx
  cases x <;> cases y <;> simp_all [codes]

end Violation

namespace Violates

theorem isPlace (h : Violates document kind x) : document.IsPlace x.place := by
  cases h with
  | missing required object absent => exact .key _ object
  | unknown present excess => exact .value present
  | mistyped typed present wrong => exact .value present
  | unresolved present dangling =>
    obtain ⟨v, hv, -⟩ := exists_needs_of_need present
    exact .value hv

theorem place_eq_of_diagnostic_eq (hx : Violates document kind x) (hy : Violates document kind y)
    (h : x.diagnostic = y.diagnostic) : x.place = y.place := by
  have hpaths := congrArg Diagnostic.path? h
  rw [x.path?_diagnostic, y.path?_diagnostic, Option.some.injEq] at hpaths
  exact (pointerTo_eq_iff hx.isPlace hy.isPlace).mp hpaths

/-- Different violations of one document have different diagnostics, but for a job that needs one
missing job more than once. -/
theorem diagnostic_eq_iff (hx : Violates document kind x) (hy : Violates document kind y) :
    x.diagnostic = y.diagnostic ↔
      x = y ∨ ∃ job i j need, x = .unresolved job i need ∧ y = .unresolved job j need := by
  constructor
  · intro h
    have hcodes := Violation.codes_eq_of_diagnostic_eq h
    have hplaces := hx.place_eq_of_diagnostic_eq hy h
    cases hx with
    | missing => cases hy with
      | missing =>
        obtain ⟨rfl, hkey⟩ := List.append_inj' hplaces rfl
        cases hkey
        exact .inl rfl
      | _ => simp [Violation.codes] at hcodes
    | unknown => cases hy with
      | unknown =>
        cases hplaces
        exact .inl rfl
      | _ => simp [Violation.codes] at hcodes
    | mistyped typed present => cases hy with
      | mistyped typed' present' =>
        cases hplaces
        rw [typed.types_eq typed', Option.some.inj (present.symm.trans present')]
        exact .inl rfl
      | _ => simp [Violation.codes] at hcodes
    | @unresolved job i need => cases hy with
      | @unresolved job' j need' =>
        cases hplaces
        have hneed : need = need' := by
          injection h with _ hdetail
          exact String.append_right_inj _ |>.mp (Option.some.inj hdetail)
        exact .inr ⟨job, i, j, need, rfl, hneed ▸ rfl⟩
      | _ => simp [Violation.codes] at hcodes
  · rintro (rfl | ⟨job, i, j, need, rfl, rfl⟩) <;> rfl

end Violates

/-- What a check says twice is that a job is missing. -/
theorem check_repeats (h : document.Ordered) (kind : Kind) :
    (check kind document).Pairwise fun d e => d = e → d.code = "unresolved_job" := by
  obtain ⟨violations, hfound, hmem, hbefore⟩ := reports_check h kind
  rw [hfound, List.pairwise_map]
  refine (Violation.nodup_of_before hbefore).imp_of_mem fun hx hy hne heq => ?_
  have hiff := ((hmem _).mp hx).diagnostic_eq_iff ((hmem _).mp hy)
  rcases hiff.mp heq with hsame | ⟨job, i, j, need, rfl, -⟩
  · exact absurd hsame hne
  · rfl

end

end Rules

end WorkflowCheck
