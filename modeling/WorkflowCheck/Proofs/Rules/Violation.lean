import WorkflowCheck.Proofs.Rules.Schema

/-! The rules report the violations of the schema: one diagnostic for each of them, in their order.
Every check is responsible for the violations at its own place, and the places do not overlap. -/

namespace WorkflowCheck

namespace Value

variable {document v w : Value} {steps : List Step}

theorem at?_append (more : List Step) :
    document.at? (steps ++ more) = (document.at? steps).bind fun v => v.at? more := by
  induction steps generalizing document with
  | nil => rfl
  | cons step rest ih => simp only [List.cons_append, at?, ih, Option.bind_assoc]

theorem exists_at?_of_append {more : List Step} (h : document.at? (steps ++ more) = some w) :
    ∃ v, document.at? steps = some v := by
  rw [at?_append, Option.bind_eq_some_iff] at h
  obtain ⟨v, hv, -⟩ := h
  exact ⟨v, hv⟩

theorem at?_key_eq_some {key : String} :
    document.at? (steps ++ [.key key]) = some w ↔
      ∃ entries, document.at? steps = some (.object entries) ∧ entries.lookup key = some w := by
  rw [at?_append]
  rcases document.at? steps with _ | v
  · simp
  · cases v <;> simp [at?, step?]

theorem at?_singleton_key {key : String} :
    document.at? [.key key] = some w ↔
      ∃ entries, document = .object entries ∧ entries.lookup key = some w := by
  rw [← List.nil_append [Step.key key], at?_key_eq_some]
  simp [at?]

theorem at?_object_key {entries : List (String × Value)} {key : String} :
    (object entries).at? [.key key] = some w ↔ entries.lookup key = some w := by
  simp [at?, step?]

theorem at?_index_eq_some {index : Nat} :
    document.at? (steps ++ [.index index]) = some w ↔
      ∃ items, document.at? steps = some (.array items) ∧ items[index]? = some w := by
  rw [at?_append]
  rcases document.at? steps with _ | v
  · simp
  · cases v <;> simp [at?, step?]

theorem typeName_object (entries : List (String × Value)) :
    (Value.object entries).typeName = "object" := rfl

theorem typeName_eq_object : v.typeName = "object" ↔ ∃ entries, v = .object entries := by
  cases v <;> simp [typeName]

theorem typeName_eq_array : v.typeName = "array" ↔ ∃ items, v = .array items := by
  cases v <;> simp [typeName]

theorem typeName_eq_string : v.typeName = "string" ↔ ∃ text, v = .string text := by
  cases v <;> simp [typeName]

end Value

open Value (Step typeName_object exists_at?_of_append at?_key_eq_some at?_index_eq_some
  typeName_eq_object typeName_eq_array typeName_eq_string)

namespace Rules

/-- What was found is one diagnostic for each of some violations, in their order. -/
def Reports (kind : Kind) (P : Violation → Prop) (found : List Diagnostic) : Prop :=
  ∃ violations : List Violation, found = violations.map Violation.diagnostic ∧
    (∀ x, x ∈ violations ↔ P x) ∧ violations.Pairwise (Violation.Before kind)

namespace Reports

variable {kind : Kind} {P Q : Violation → Prop} {found more : List Diagnostic}

theorem congr (h : Reports kind P found) (hPQ : ∀ x, Q x ↔ P x) : Reports kind Q found := by
  obtain ⟨violations, hfound, hmem, hbefore⟩ := h
  exact ⟨violations, hfound, fun x => (hmem x).trans (hPQ x).symm, hbefore⟩

theorem nil (h : ∀ x, ¬P x) : Reports kind P [] :=
  ⟨[], rfl, fun x => by simp [h x], List.Pairwise.nil⟩

theorem singleton {y : Violation} (h : ∀ x, P x ↔ x = y) : Reports kind P [y.diagnostic] :=
  ⟨[y], rfl, fun x => by rw [List.mem_singleton, h x], List.pairwise_singleton _ _⟩

theorem append (h : Reports kind P found) (h' : Reports kind Q more)
    (hbefore : ∀ x y, P x → Q y → Violation.Before kind x y) :
    Reports kind (fun x => P x ∨ Q x) (found ++ more) := by
  obtain ⟨xs, rfl, hxs, hx⟩ := h
  obtain ⟨ys, rfl, hys, hy⟩ := h'
  refine ⟨xs ++ ys, List.map_append.symm, fun x => by rw [List.mem_append, hxs, hys], ?_⟩
  refine List.pairwise_append.mpr ⟨hx, hy, fun x hmx y hmy => ?_⟩
  exact hbefore x y ((hxs x).mp hmx) ((hys y).mp hmy)

theorem flatMap {α : Type} {R : α → Violation → Prop} {f : α → List Diagnostic} {l : List α}
    (h : ∀ a ∈ l, Reports kind (R a) (f a))
    (hl : l.Pairwise fun a b => ∀ x y, R a x → R b y → Violation.Before kind x y) :
    Reports kind (fun x => ∃ a ∈ l, R a x) (l.flatMap f) := by
  induction l with
  | nil => exact .nil fun x => by simp
  | cons a rest ih =>
    rw [List.forall_mem_cons] at h
    obtain ⟨hfirst, hrest⟩ := List.pairwise_cons.mp hl
    refine (h.1.append (ih h.2 hrest) ?_).congr fun x => by simp only [List.mem_cons, exists_eq_or_imp]
    rintro x y hx ⟨b, hb, hy⟩
    exact hfirst b hb x y hx hy

theorem eq_nil_iff (h : Reports kind P found) : found = [] ↔ ∀ x, ¬P x := by
  obtain ⟨violations, rfl, hmem, -⟩ := h
  rw [List.map_eq_nil_iff, List.eq_nil_iff_forall_not_mem]
  exact forall_congr' fun x => not_congr (hmem x)

theorem exists_of_mem (h : Reports kind P found) {d : Diagnostic} (hd : d ∈ found) :
    ∃ x, P x ∧ d = x.diagnostic := by
  obtain ⟨violations, rfl, hmem, -⟩ := h
  obtain ⟨x, hx, rfl⟩ := List.mem_map.mp hd
  exact ⟨x, (hmem x).mp hx, rfl⟩

end Reports

namespace Violation

/-- Below the value of a key of the document. -/
def Under (key : String) (x : Violation) : Prop := ∃ rest, x.steps = .key key :: rest

theorem job?_eq_some {x : Violation} {name : String} :
    x.job? = some name ↔ ∃ rest, x.steps = [.key "jobs", .key name] ++ rest := by
  unfold job?
  split
  · next job rest hsteps => simp [hsteps]
  · next hne =>
    refine iff_of_false (by simp) ?_
    rintro ⟨rest, hsteps⟩
    exact hne name rest hsteps

theorem under_of_job? {x : Violation} {name : String} (h : x.job? = some name) : x.Under "jobs" := by
  obtain ⟨rest, hsteps⟩ := job?_eq_some.mp h
  exact ⟨_, hsteps⟩

theorem stage_of_under {x : Violation} {key : String} (h : x.Under key) :
    x.stage = if key = "jobs" then 3 else 2 := by
  obtain ⟨rest, hsteps⟩ := h
  unfold stage
  split
  · cases hsteps
  · cases hsteps
  · rw [hsteps]
    split <;> simp_all

theorem stage_of_job? {x : Violation} {name : String} (h : x.job? = some name) : x.stage = 3 :=
  (stage_of_under (under_of_job? h)).trans (if_pos rfl)

theorem Before.stage_le {kind : Kind} {x y : Violation} (h : x.Before kind y) : x.stage ≤ y.stage := by
  cases h with
  | stage h => exact h.le
  | missing => exact le_rfl
  | unknown => exact le_rfl
  | job hx hy => rw [stage_of_job? hx, stage_of_job? hy]
  | index hx hy => rw [stage_of_job? hx, stage_of_job? hy]

theorem Before.asymm {kind : Kind} {x y : Violation} (h : x.Before kind y) : ¬y.Before kind x := by
  have hdeclared : (requiredKeys kind).Pairwise fun a b => ¬[b, a].Sublist (requiredKeys kind) := by
    cases kind <;> decide
  intro h'
  have hle := h.stage_le
  cases h' with
  | stage hlt => exact absurd hle (not_le.mpr hlt)
  | missing h' => cases h with
    | stage hlt => exact lt_irrefl _ hlt
    | missing h => exact List.pairwise_iff_forall_sublist.mp hdeclared h h'
    | job hx => nomatch hx
    | index hx => nomatch hx
  | unknown h' => cases h with
    | stage hlt => exact lt_irrefl _ hlt
    | unknown h => exact List.lt_asymm h h'
    | job hx => nomatch hx
    | index hx => nomatch hx
  -- Both lie in jobs and so at one stage: only names or positions can tell them apart.
  | job hy hx h' =>
    have hstage : x.stage = y.stage := (stage_of_job? hx).trans (stage_of_job? hy).symm
    cases h with
    | stage hlt => exact absurd hstage hlt.ne
    | missing => nomatch hx
    | unknown => nomatch hx
    | job hx' hy' h =>
      cases hx.symm.trans hx'
      cases hy.symm.trans hy'
      exact List.lt_asymm h h'
    | index hx' hy' =>
      cases hx.symm.trans hx'
      cases hy.symm.trans hy'
      exact List.lt_irrefl _ h'
  | index hy hx hj hi h' =>
    have hstage : x.stage = y.stage := (stage_of_job? hx).trans (stage_of_job? hy).symm
    cases h with
    | stage hlt => exact absurd hstage hlt.ne
    | missing => nomatch hx
    | unknown => nomatch hx
    | job hx' hy' h =>
      cases hx.symm.trans hx'
      cases hy.symm.trans hy'
      exact List.lt_irrefl _ h
    | index _ _ hi' hj' h =>
      cases hi.symm.trans hi'
      cases hj.symm.trans hj'
      exact lt_asymm h h'

theorem nodup_of_before {kind : Kind} {xs : List Violation} (h : xs.Pairwise (Before kind)) :
    xs.Nodup := by
  refine h.imp ?_
  rintro x _ h rfl
  exact h.asymm h

theorem eq_of_mem_iff {kind : Kind} {P : Violation → Prop} {xs ys : List Violation}
    (hxs : ∀ x, x ∈ xs ↔ P x) (hys : ∀ x, x ∈ ys ↔ P x) (hx : xs.Pairwise (Before kind))
    (hy : ys.Pairwise (Before kind)) : xs = ys := by
  have hperm : xs.Perm ys := by
    rw [List.perm_ext_iff_of_nodup (nodup_of_before hx) (nodup_of_before hy)]
    exact fun x => (hxs x).trans (hys x).symm
  exact hperm.eq_of_pairwise (fun x y _ _ h h' => absurd h' h.asymm) hx hy

end Violation

section

variable {document v : Value} {kind : Kind} {steps : List Step} {types : List String}

/-- The one check of a type: nothing where it is right, one diagnostic where it is not. -/
theorem reports_type {P : Violation → Prop}
    (h : ∀ x, P x ↔ v.typeName ∉ types ∧ x = .mistyped steps types v) :
    Reports kind P (if v.typeName ∈ types then [] else [(Violation.mistyped steps types v).diagnostic]) := by
  by_cases hv : v.typeName ∈ types
  · rw [if_pos hv]
    exact .nil fun x hx => ((h x).mp hx).1 hv
  · rw [if_neg hv]
    exact .singleton fun x => (h x).trans (and_iff_right hv)

theorem violates_under_runs_iff {runs : Value} (hruns : document.at? [.key "runs"] = some runs)
    {x : Violation} :
    Violates document .action x ∧ x.Under "runs" ↔
      runs.typeName ∉ ["object"] ∧ x = .mistyped [.key "runs"] ["object"] runs ∨
      ∃ entries, runs = .object entries ∧
        (entries.lookup "using" = none ∧ x = .missing [.key "runs"] "using" ∨
        ∃ v, entries.lookup "using" = some v ∧ v.typeName ∉ ["string"] ∧
          x = .mistyped [.key "runs", .key "using"] ["string"] v) := by
  have husing {v : Value} : document.at? ([.key "runs"] ++ [.key "using"]) = some v ↔
      ∃ entries, runs = .object entries ∧ entries.lookup "using" = some v := by
    simp only [at?_key_eq_some, hruns, Option.some.injEq]
  constructor
  · rintro ⟨h, rest, hrest⟩
    cases h with
    | missing required object absent =>
      cases required with
      | document => nomatch hrest
      | runsUsing => exact .inr ⟨_, Option.some.inj (hruns.symm.trans object), .inl ⟨absent, rfl⟩⟩
    | unknown => nomatch hrest
    | mistyped typed present wrong =>
      cases typed with
      | document => nomatch hrest
      | runs =>
        cases Option.some.inj (hruns.symm.trans present)
        exact .inl ⟨wrong, rfl⟩
      | runsUsing =>
        obtain ⟨entries, hentries, hlookup⟩ := husing.mp present
        exact .inr ⟨entries, hentries, .inr ⟨_, hlookup, wrong, rfl⟩⟩
  · rintro (⟨wrong, rfl⟩ | ⟨entries, rfl, ⟨absent, rfl⟩ | ⟨v, hlookup, wrong, rfl⟩⟩)
    · exact ⟨.mistyped .runs hruns wrong, [], rfl⟩
    · exact ⟨.missing .runsUsing hruns absent, [], rfl⟩
    · exact ⟨.mistyped .runsUsing (husing.mpr ⟨entries, rfl, hlookup⟩) wrong, [.key "using"], rfl⟩

theorem reports_checkRuns {runs : Value} (hruns : document.at? [.key "runs"] = some runs) :
    Reports .action (fun x => Violates document .action x ∧ x.Under "runs") (checkRuns runs) := by
  refine .congr ?_ fun x => violates_under_runs_iff hruns
  cases runs with
  | object entries =>
    cases hlookup : entries.lookup "using" with
    | none =>
      have hfound : checkRuns (.object entries) =
          [(Violation.missing [.key "runs"] "using").diagnostic] := by
        simp only [checkRuns, hlookup]
        rfl
      rw [hfound]
      exact .singleton fun x => by
        simp [typeName_object, hlookup, -List.lookup_eq_none_iff]
    | some v =>
      have hfound : checkRuns (.object entries) = if v.typeName ∈ ["string"] then [] else
          [(Violation.mistyped [.key "runs", .key "using"] ["string"] v).diagnostic] := by
        simp only [checkRuns, hlookup]
        cases v <;> rfl
      rw [hfound]
      exact reports_type fun x => by
        simp [typeName_object, hlookup, -List.lookup_eq_none_iff]
  | _ => exact .singleton (y := .mistyped [.key "runs"] ["object"] _) fun x => by simp [Value.typeName]

theorem violates_under_on_iff {on : Value} (hon : document.at? [.key "on"] = some on)
    {x : Violation} :
    Violates document .workflow x ∧ x.Under "on" ↔
      on.typeName ∉ ["string", "array", "object"] ∧
        x = .mistyped [.key "on"] ["string", "array", "object"] on := by
  constructor
  · rintro ⟨h, rest, hrest⟩
    cases h with
    | missing required => cases required with
      | document => nomatch hrest
    | unknown => nomatch hrest
    | mistyped typed present wrong =>
      cases typed with
      | on =>
        cases Option.some.inj (hon.symm.trans present)
        exact ⟨wrong, rfl⟩
      | document => nomatch hrest
      | _ => simp [Violation.steps] at hrest
    | unresolved => simp [Violation.steps, needSteps] at hrest
  · rintro ⟨wrong, rfl⟩
    exact ⟨.mistyped .on hon wrong, [], rfl⟩

theorem reports_checkOn {on : Value} (hon : document.at? [.key "on"] = some on) :
    Reports .workflow (fun x => Violates document .workflow x ∧ x.Under "on") (checkOn on) := by
  have hfound : checkOn on = if on.typeName ∈ ["string", "array", "object"] then [] else
      [(Violation.mistyped [.key "on"] ["string", "array", "object"] on).diagnostic] := by
    cases on <;> rfl
  rw [hfound]
  exact reports_type fun x => violates_under_on_iff hon

end

section

variable {document : Value} {jobs : List (String × Value)} {name : String}

/-- The value at a position of the needs of a job is no text, or it names no job. -/
def NeedViolation (document : Value) (name : String) (i : Nat) (item : Value) (x : Violation) : Prop :=
  item.typeName ∉ ["string"] ∧
      x = .mistyped [.key "jobs", .key name, .key "needs", .index i] ["string"] item ∨
    ∃ need, item = .string need ∧ ¬IsJob document need ∧ x = .unresolved name (some i) need

theorem NeedViolation.job? {i : Nat} {item : Value} {x : Violation}
    (h : NeedViolation document name i item x) : x.job? = some name := by
  rcases h with ⟨-, rfl⟩ | ⟨need, -, -, rfl⟩ <;> rfl

theorem NeedViolation.index? {i : Nat} {item : Value} {x : Violation}
    (h : NeedViolation document name i item x) : x.index? = some i := by
  rcases h with ⟨-, rfl⟩ | ⟨need, -, -, rfl⟩ <;> rfl

theorem isJob_iff (hjobs : document.at? [.key "jobs"] = some (.object jobs)) {need : String} :
    IsJob document need ↔ hasKey need jobs = true := by
  have hat {v : Value} : document.at? ([.key "jobs"] ++ [.key need]) = some v ↔
      jobs.lookup need = some v := by
    rw [at?_key_eq_some, hjobs]
    simp
  simp only [IsJob, hasKey, Option.isSome_iff_exists]
  exact exists_congr fun v => hat

theorem reports_checkNeed (hjobs : document.at? [.key "jobs"] = some (.object jobs))
    (index : Option Nat) (need : String) :
    Reports .workflow (fun x => ¬IsJob document need ∧ x = .unresolved name index need)
      (checkNeed jobs (pointerTo (needSteps name none)) need) := by
  rw [checkNeed]
  split
  · next h => exact .nil fun x hx => hx.1 ((isJob_iff hjobs).mpr h)
  · next h => exact .singleton fun x => and_iff_right fun hn => h ((isJob_iff hjobs).mp hn)

theorem reports_checkNeedItem (hjobs : document.at? [.key "jobs"] = some (.object jobs))
    (name : String) (i : Nat) (item : Value) (rest : List Value) :
    ∃ first, Reports .workflow (NeedViolation document name i item) first ∧
      checkNeedItems jobs (pointerTo (needSteps name none)) i (item :: rest) =
        first ++ checkNeedItems jobs (pointerTo (needSteps name none)) (i + 1) rest := by
  by_cases hstring : ∃ need, item = .string need
  · obtain ⟨need, rfl⟩ := hstring
    refine ⟨_, (reports_checkNeed hjobs (some i) need).congr fun x => ?_, by rw [checkNeedItems]⟩
    simp [NeedViolation, typeName_eq_string]
  · refine ⟨_, .singleton (y := .mistyped [.key "jobs", .key name, .key "needs", .index i]
      ["string"] item) fun x => ?_, ?_⟩
    · have hne : ∀ need, item ≠ .string need := fun need h => hstring ⟨need, h⟩
      simp [NeedViolation, typeName_eq_string, hne]
    · cases item with
      | string need => exact absurd ⟨need, rfl⟩ hstring
      | _ => rfl

theorem reports_checkNeedItems (hjobs : document.at? [.key "jobs"] = some (.object jobs))
    (i : Nat) (items : List Value) :
    Reports .workflow
      (fun x => ∃ k item, items[k]? = some item ∧ NeedViolation document name (i + k) item x)
      (checkNeedItems jobs (pointerTo (needSteps name none)) i items) := by
  induction items generalizing i with
  | nil => exact .nil fun x => by simp
  | cons item rest ih =>
    obtain ⟨first, hfirst, heq⟩ := reports_checkNeedItem hjobs name i item rest
    rw [heq]
    refine (hfirst.append (ih (i + 1)) ?_).congr fun x => ?_
    · rintro x y hx ⟨k, other, -, hy⟩
      exact .index hx.job? hy.job? hx.index? hy.index? (by omega)
    · have hshift (k : Nat) : i + 1 + k = i + (k + 1) := by omega
      constructor
      · rintro ⟨k, other, hget, hx⟩
        cases k with
        | zero =>
          cases Option.some.inj hget
          exact .inl hx
        | succ k => exact .inr ⟨k, other, hget, hshift k ▸ hx⟩
      · rintro (hx | ⟨k, other, hget, hx⟩)
        · exact ⟨0, item, rfl, hx⟩
        · exact ⟨k + 1, other, hget, hshift k ▸ hx⟩

def NeedsViolation (document : Value) (name : String) (needs : Value) (x : Violation) : Prop :=
  needs.typeName ∉ ["string", "array"] ∧
      x = .mistyped [.key "jobs", .key name, .key "needs"] ["string", "array"] needs ∨
    (∃ need, needs = .string need ∧ ¬IsJob document need ∧ x = .unresolved name none need) ∨
      ∃ items, needs = .array items ∧
        ∃ i item, items[i]? = some item ∧ NeedViolation document name i item x

theorem NeedsViolation.job? {needs : Value} {x : Violation}
    (h : NeedsViolation document name needs x) : x.job? = some name := by
  rcases h with ⟨-, rfl⟩ | ⟨need, -, -, rfl⟩ | ⟨items, -, i, item, -, hx⟩
  · rfl
  · rfl
  · exact hx.job?

theorem reports_checkNeeds (hjobs : document.at? [.key "jobs"] = some (.object jobs))
    (needs : Value) :
    Reports .workflow (NeedsViolation document name needs)
      (checkNeeds jobs (pointerTo (needSteps name none)) needs) := by
  cases needs with
  | string need =>
    refine (reports_checkNeed hjobs none need).congr fun x => ?_
    simp [NeedsViolation, Value.typeName]
  | array items =>
    refine (reports_checkNeedItems hjobs 0 items).congr fun x => ?_
    simp [NeedsViolation, Value.typeName]
  | _ =>
    exact .singleton (y := .mistyped [.key "jobs", .key name, .key "needs"] ["string", "array"] _)
      fun x => by simp [NeedsViolation, Value.typeName]

def JobViolation (document : Value) (name : String) (job : Value) (x : Violation) : Prop :=
  job.typeName ∉ ["object"] ∧ x = .mistyped [.key "jobs", .key name] ["object"] job ∨
    ∃ entries needs, job = .object entries ∧ entries.lookup "needs" = some needs ∧
      NeedsViolation document name needs x

theorem JobViolation.job? {job : Value} {x : Violation} (h : JobViolation document name job x) :
    x.job? = some name := by
  rcases h with ⟨-, rfl⟩ | ⟨entries, needs, -, -, hx⟩
  · rfl
  · exact hx.job?

theorem reports_checkJob (hjobs : document.at? [.key "jobs"] = some (.object jobs)) (job : Value) :
    Reports .workflow (JobViolation document name job) (checkJob jobs name job) := by
  cases job with
  | object entries =>
    cases hlookup : entries.lookup "needs" with
    | none =>
      have hfound : checkJob jobs name (.object entries) = [] := by simp only [checkJob, hlookup]
      rw [hfound]
      exact .nil fun x => by simp [JobViolation, typeName_object, hlookup, -List.lookup_eq_none_iff]
    | some needs =>
      have hfound : checkJob jobs name (.object entries) =
          checkNeeds jobs (pointerTo (needSteps name none)) needs := by
        simp only [checkJob, hlookup]
        rfl
      rw [hfound]
      refine (reports_checkNeeds hjobs needs).congr fun x => ?_
      simp [JobViolation, typeName_object, hlookup]
  | _ =>
    exact .singleton (y := .mistyped [.key "jobs", .key name] ["object"] _) fun x => by
      simp [JobViolation, Value.typeName]

theorem violates_in_job_iff {job : Value} (hjob : document.at? [.key "jobs", .key name] = some job)
    {x : Violation} :
    Violates document .workflow x ∧ x.job? = some name ↔ JobViolation document name job x := by
  have hneeds {v : Value} : document.at? ([.key "jobs", .key name] ++ [.key "needs"]) = some v ↔
      ∃ entries, job = .object entries ∧ entries.lookup "needs" = some v := by
    simp only [at?_key_eq_some, hjob, Option.some.injEq]
  have hitem {i : Nat} {v : Value} :
      document.at? ([.key "jobs", .key name, .key "needs"] ++ [.index i]) = some v ↔
        ∃ items, (∃ entries, job = .object entries ∧ entries.lookup "needs" = some (.array items)) ∧
          items[i]? = some v :=
    at?_index_eq_some.trans (exists_congr fun items => and_congr_left fun _ => hneeds)
  constructor
  · rintro ⟨h, hname⟩
    cases h with
    | missing required => cases required with
      | document => nomatch hname
    | unknown => nomatch hname
    | mistyped typed present wrong =>
      cases typed with
      | document => nomatch hname
      | on => nomatch hname
      | jobs => nomatch hname
      | job other =>
        cases hname
        cases Option.some.inj (hjob.symm.trans present)
        exact .inl ⟨wrong, rfl⟩
      | needs other =>
        cases hname
        obtain ⟨entries, rfl, hlookup⟩ := hneeds.mp present
        exact .inr ⟨entries, _, rfl, hlookup, .inl ⟨wrong, rfl⟩⟩
      | need other i =>
        cases hname
        obtain ⟨items, ⟨entries, rfl, hlookup⟩, hget⟩ := hitem.mp present
        exact .inr ⟨entries, _, rfl, hlookup, .inr (.inr ⟨items, rfl, i, _, hget, .inl ⟨wrong, rfl⟩⟩)⟩
    | @unresolved other index need present dangling =>
      cases hname
      cases index with
      | none =>
        obtain ⟨entries, rfl, hlookup⟩ := hneeds.mp present
        exact .inr ⟨entries, _, rfl, hlookup, .inr (.inl ⟨need, rfl, dangling, rfl⟩)⟩
      | some i =>
        obtain ⟨items, ⟨entries, rfl, hlookup⟩, hget⟩ := hitem.mp present
        exact .inr ⟨entries, _, rfl, hlookup,
          .inr (.inr ⟨items, rfl, i, _, hget, .inr ⟨need, rfl, dangling, rfl⟩⟩)⟩
  · intro h
    refine ⟨?_, h.job?⟩
    rcases h with ⟨wrong, rfl⟩ | ⟨entries, needs, rfl, hlookup, h⟩
    · exact .mistyped (.job name) hjob wrong
    · have hat := hneeds.mpr ⟨entries, rfl, hlookup⟩
      rcases h with ⟨wrong, rfl⟩ | ⟨need, rfl, dangling, rfl⟩ | ⟨items, rfl, i, item, hget, h⟩
      · exact .mistyped (.needs name) hat wrong
      · have hneed : document.at? (needSteps name none) = some (.string need) := hat
        exact .unresolved hneed dangling
      · have hat' := hitem.mpr ⟨items, ⟨entries, rfl, hlookup⟩, hget⟩
        rcases h with ⟨wrong, rfl⟩ | ⟨need, rfl, dangling, rfl⟩
        · exact .mistyped (.need name i) hat' wrong
        · have hneed : document.at? (needSteps name (some i)) = some (.string need) := hat'
          exact .unresolved hneed dangling

theorem Violates.present {kind : Kind} {x : Violation} (h : Violates document kind x) :
    ∃ v, document.at? x.steps = some v := by
  cases h with
  | missing _ object => exact ⟨_, object⟩
  | unknown => exact ⟨document, rfl⟩
  | mistyped _ present => exact ⟨_, present⟩
  | unresolved present => exact ⟨_, present⟩

theorem Violates.present_of_under {kind : Kind} {x : Violation} {key : String}
    (h : Violates document kind x) (hu : x.Under key) : ∃ v, document.at? [.key key] = some v := by
  obtain ⟨v, hv⟩ := h.present
  obtain ⟨rest, hsteps⟩ := hu
  rw [hsteps, ← List.singleton_append] at hv
  exact exists_at?_of_append hv

theorem Violates.exists_job {kind : Kind} {x : Violation} (h : Violates document kind x)
    (hname : x.job? = some name) : ∃ job, document.at? [.key "jobs", .key name] = some job := by
  obtain ⟨v, hv⟩ := h.present
  obtain ⟨rest, hsteps⟩ := Violation.job?_eq_some.mp hname
  rw [hsteps] at hv
  exact exists_at?_of_append hv

theorem violates_under_jobs_cases {v : Value} (hv : document.at? [.key "jobs"] = some v)
    {x : Violation} (h : Violates document .workflow x) (hu : x.Under "jobs") :
    v.typeName ∉ ["object"] ∧ x = .mistyped [.key "jobs"] ["object"] v ∨
      ∃ name, x.job? = some name := by
  obtain ⟨rest, hrest⟩ := hu
  cases h with
  | missing required => cases required with
    | document => nomatch hrest
  | unknown => nomatch hrest
  | mistyped typed present wrong =>
    cases typed with
    | document => nomatch hrest
    | on => simp [Violation.steps] at hrest
    | jobs =>
      cases Option.some.inj (hv.symm.trans present)
      exact .inl ⟨wrong, rfl⟩
    | _ => exact .inr ⟨_, rfl⟩
  | unresolved => exact .inr ⟨_, rfl⟩

theorem reports_checkJobs {v : Value} (hv : document.at? [.key "jobs"] = some v)
    (hasc : ∀ jobs, v = .object jobs → Value.Ascending jobs) :
    Reports .workflow (fun x => Violates document .workflow x ∧ x.Under "jobs") (checkJobs v) := by
  have hat {name : String} {job : Value} :
      document.at? ([.key "jobs"] ++ [.key name]) = some job ↔
        ∃ jobs, v = .object jobs ∧ jobs.lookup name = some job := by
    simp only [at?_key_eq_some, hv, Option.some.injEq]
  by_cases hobject : ∃ jobs, v = .object jobs
  · obtain ⟨jobs, rfl⟩ := hobject
    have hmem {name : String} {job : Value} :
        document.at? [.key "jobs", .key name] = some job ↔ (name, job) ∈ jobs := by
      refine hat.trans ?_
      simp [(hasc jobs rfl).lookup_eq_some]
    -- A violation bears the name of its job, so that the order of the names orders the jobs' parts.
    refine (Reports.flatMap (fun e _ => reports_checkJob hv e.2) ?_).congr fun x => ?_
    · refine (List.pairwise_map.mp (hasc jobs rfl)).imp fun hlt x y hx hy => ?_
      exact .job hx.job? hy.job? (Text.encode_lt_encode_iff.mpr hlt)
    · constructor
      · rintro ⟨h, hu⟩
        rcases violates_under_jobs_cases hv h hu with ⟨wrong, -⟩ | ⟨name, hname⟩
        · exact absurd (List.mem_singleton_self _) wrong
        · obtain ⟨job, hjob⟩ := h.exists_job hname
          exact ⟨(name, job), hmem.mp hjob, (violates_in_job_iff hjob).mp ⟨h, hname⟩⟩
      · rintro ⟨e, he, h⟩
        obtain ⟨h, hname⟩ := (violates_in_job_iff (hmem.mpr he)).mpr h
        exact ⟨h, Violation.under_of_job? hname⟩
  · have hfound : checkJobs v = [(Violation.mistyped [.key "jobs"] ["object"] v).diagnostic] := by
      cases v with
      | object jobs => exact absurd ⟨jobs, rfl⟩ hobject
      | _ => rfl
    have hwrong : v.typeName ∉ ["object"] := by simpa [typeName_eq_object] using hobject
    rw [hfound]
    refine .singleton fun x => ⟨?_, ?_⟩
    · rintro ⟨h, hu⟩
      rcases violates_under_jobs_cases hv h hu with ⟨-, hx⟩ | ⟨name, hname⟩
      · exact hx
      · obtain ⟨job, hjob⟩ := h.exists_job hname
        obtain ⟨jobs, rfl, -⟩ := hat.mp hjob
        exact absurd ⟨jobs, rfl⟩ hobject
    · rintro rfl
      exact ⟨.mistyped .jobs hv hwrong, [], rfl⟩

end

end Rules

end WorkflowCheck
