import WorkflowCheck.Proofs.Rules.Pointing

/-! A job more in a workflow. All that names it among the needs of other jobs is resolved, and nothing
else is said of them; what is wrong with the new job itself stands at its own place. -/

namespace WorkflowCheck

namespace Value

section

variable {α : Type} {entries : List (String × α)} {key : String} {value : α}

theorem lookup_cons_eq_ite (e : String × α) (rest : List (String × α)) (other : String) :
    (e :: rest).lookup other = if other = e.1 then some e.2 else rest.lookup other := by
  rw [List.lookup_cons]
  by_cases h : other = e.1
  · simp [h]
  · simp [beq_false_of_ne h, h]

theorem lookup_insertEntry (entries : List (String × α)) (key : String) (value : α) (other : String) :
    (insertEntry key value entries).lookup other =
      if other = key then some value else entries.lookup other := by
  induction entries with
  | nil => rw [insertEntry, lookup_cons_eq_ite]
  | cons e rest ih =>
    rw [insertEntry]
    by_cases hlt : key < e.1
    · rw [if_pos hlt, lookup_cons_eq_ite]
    · rw [if_neg hlt]
      by_cases heq : key = e.1
      · rw [if_pos heq, lookup_cons_eq_ite, lookup_cons_eq_ite, ← heq]
        by_cases h : other = key <;> simp [h]
      · rw [if_neg heq, lookup_cons_eq_ite, lookup_cons_eq_ite, ih]
        by_cases h : other = key <;> simp [h, heq]

theorem Ascending.map_fst_insertEntry (h : Ascending entries) (hkey : key ∈ entries.map (·.1)) :
    (Value.insertEntry key value entries).map (·.1) = entries.map (·.1) := by
  induction entries with
  | nil => exact absurd hkey List.not_mem_nil
  | cons e rest ih =>
    obtain ⟨hlt, hrest⟩ := List.pairwise_cons.mp h
    rw [Value.insertEntry]
    rcases List.mem_cons.mp hkey with heq | hkey
    · have heq : key = e.1 := heq
      rw [if_neg (heq ▸ lt_irrefl key), if_pos heq, List.map_cons, List.map_cons, heq]
    · have hafter : e.1 < key := hlt key hkey
      rw [if_neg (lt_asymm hafter), if_neg hafter.ne', List.map_cons, List.map_cons, ih hrest hkey]

/-- A new key goes between the smaller and the greater ones. -/
theorem Ascending.exists_insertEntry (h : Ascending entries) (hkey : entries.lookup key = none)
    (value : α) :
    ∃ before after, entries = before ++ after ∧
      Value.insertEntry key value entries = before ++ (key, value) :: after ∧
      (∀ e ∈ before, e.1 < key) ∧ ∀ e ∈ after, key < e.1 := by
  induction entries with
  | nil => exact ⟨[], [], rfl, rfl, by simp, by simp⟩
  | cons e rest ih =>
    obtain ⟨hlt, hrest⟩ := List.pairwise_cons.mp h
    have hne : key ≠ e.1 := by
      rintro rfl
      simp at hkey
    have hkey : rest.lookup key = none := by
      rwa [List.lookup_cons, beq_false_of_ne hne] at hkey
    rw [Value.insertEntry]
    by_cases hfirst : key < e.1
    · refine ⟨[], e :: rest, rfl, if_pos hfirst, by simp, ?_⟩
      intro e' he'
      rcases List.mem_cons.mp he' with rfl | he'
      · exact hfirst
      · exact hfirst.trans (hlt _ (List.mem_map_of_mem he'))
    · obtain ⟨before, after, rfl, hinsert, hbefore, hafter⟩ := ih hrest hkey
      refine ⟨e :: before, after, rfl, ?_, ?_, hafter⟩
      · rw [if_neg hfirst, if_neg hne, hinsert, List.cons_append]
      · exact List.forall_mem_cons.mpr ⟨lt_of_le_of_ne (not_lt.mp hfirst) hne.symm, hbefore⟩

end

end Value

namespace Diagnostic

/-- Whatever a diagnostic has to say, nested states included, it says at a place or below it. -/
def Below (steps : List String) (d : Diagnostic) : Prop :=
  ∀ e : Diagnostic, e.Inside d → ∃ path, e.path? = some path ∧ steps <+: Pointer.steps path

theorem Below.widen {steps steps' : List String} {d : Diagnostic} (h : d.Below steps')
    (hbegins : steps <+: steps') : d.Below steps := by
  intro e he
  obtain ⟨path, hpath, hsteps⟩ := h e he
  exact ⟨path, hpath, hbegins.trans hsteps⟩

end Diagnostic

namespace Rules

/-- That there is no job of a name. -/
def lacks (name : String) : Diagnostic → Bool
  | .schema code detail .. => code = "unresolved_job" && detail = some ("unresolved job " ++ name)
  | .parse .. => false

variable {jobs : List (String × Value)} {d : Diagnostic}

theorem hasKey_insertEntry (entries : List (String × Value)) (key : String) (value : Value)
    (other : String) :
    hasKey other (Value.insertEntry key value entries) = (other = key || hasKey other entries) := by
  rw [hasKey, hasKey, Value.lookup_insertEntry]
  by_cases h : other = key <;> simp [h]

theorem lacks_unresolvedJob (name path need : String) :
    lacks name (unresolvedJob path need) = decide (need = name) := by
  simp [lacks, unresolvedJob, Diagnostic.ofRule, Diagnostic.withDetail]

theorem filter_not_lacks {found : List Diagnostic} (h : ∀ d ∈ found, d.code ≠ "unresolved_job")
    (name : String) : found.filter (!lacks name ·) = found := by
  rw [List.filter_eq_self]
  intro d hd
  cases d with
  | schema code detail path title states => simp [lacks, show code ≠ "unresolved_job" from h _ hd]
  | parse code detail title location => rfl

section

variable (key : String) (value : Value)

theorem checkNeed_insertEntry (path need : String) :
    checkNeed (Value.insertEntry key value jobs) path need =
      (checkNeed jobs path need).filter (!lacks key ·) := by
  rw [checkNeed, checkNeed, hasKey_insertEntry]
  by_cases hneed : need = key
  · by_cases hknown : hasKey key jobs <;> simp [hneed, hknown, lacks_unresolvedJob]
  · by_cases hknown : hasKey need jobs <;> simp [hneed, hknown, lacks_unresolvedJob]

theorem checkNeedItems_insertEntry (path : String) (i : Nat) (items : List Value) :
    checkNeedItems (Value.insertEntry key value jobs) path i items =
      (checkNeedItems jobs path i items).filter (!lacks key ·) := by
  induction items generalizing i with
  | nil => rfl
  | cons item rest ih =>
    cases item with
    | string need =>
      simp only [checkNeedItems, ih, checkNeed_insertEntry, List.filter_append]
    | _ =>
      simp only [checkNeedItems, ih, List.filter_cons]
      rfl

theorem checkNeeds_insertEntry (path : String) (needs : Value) :
    checkNeeds (Value.insertEntry key value jobs) path needs =
      (checkNeeds jobs path needs).filter (!lacks key ·) := by
  cases needs with
  | string need => exact checkNeed_insertEntry key value path need
  | array items => exact checkNeedItems_insertEntry key value path 0 items
  | _ => rfl

theorem checkJob_insertEntry (name : String) (job : Value) :
    checkJob (Value.insertEntry key value jobs) name job =
      (checkJob jobs name job).filter (!lacks key ·) := by
  unfold checkJob
  cases job with
  | object entries =>
    cases hneeds : entries.lookup "needs" with
    | none => simp [hneeds]
    | some needs => simp only [hneeds, checkNeeds_insertEntry]
  | _ => rfl

end

section

variable {path : String}

theorem below_wrongType {steps : List String} (h : steps <+: Pointer.steps path) (expected : String)
    (actual : Value) : (wrongType path expected actual).Below steps := by
  intro e he
  rw [eq_of_inside he]
  exact ⟨path, rfl, h⟩

theorem below_noneOf (alternatives : List String) (actual : Value) :
    (noneOf path alternatives actual).Below (Pointer.steps path) := by
  intro e he
  cases he with
  | self => exact ⟨path, rfl, List.prefix_rfl⟩
  | nested hstate hd hin =>
    obtain ⟨expected, -, hmk⟩ := List.mem_map.mp hstate
    cases hmk
    cases List.mem_singleton.mp hd
    exact below_wrongType List.prefix_rfl expected actual e hin

theorem below_of_mem_checkNeed {need : String} (h : d ∈ checkNeed jobs path need) :
    d.Below (Pointer.steps path) := by
  unfold checkNeed at h
  split at h
  · contradiction
  · intro e he
    rw [List.mem_singleton.mp h] at he
    rw [eq_of_inside he]
    exact ⟨path, rfl, List.prefix_rfl⟩

theorem below_of_mem_checkNeedItems {i : Nat} {items : List Value}
    (h : d ∈ checkNeedItems jobs path i items) : d.Below (Pointer.steps path) := by
  induction items generalizing i with
  | nil => contradiction
  | cons item rest ih =>
    unfold checkNeedItems at h
    split at h
    · contradiction
    · next heq =>
      cases heq
      rcases List.mem_append.mp h with h | h
      · exact below_of_mem_checkNeed h
      · exact ih h
    · next heq =>
      cases heq
      rcases List.mem_cons.mp h with rfl | h
      · exact below_wrongType (Pointer.steps_child path _ ▸ List.prefix_append _ _) _ _
      · exact ih h

theorem below_of_mem_checkNeeds {needs : Value} (h : d ∈ checkNeeds jobs path needs) :
    d.Below (Pointer.steps path) := by
  unfold checkNeeds at h
  split at h
  · exact below_of_mem_checkNeed h
  · exact below_of_mem_checkNeedItems h
  · exact List.mem_singleton.mp h ▸ below_noneOf _ _

theorem steps_job (name : String) : Pointer.steps (Pointer.child "/jobs" name) = ["jobs", name] := by
  have hjobs : "/jobs" = Pointer.child "" "jobs" := rfl
  rw [hjobs, Pointer.steps_child, Pointer.steps_child, Pointer.steps_empty, List.nil_append,
    List.singleton_append]

theorem below_of_mem_checkJob {name : String} {job : Value} (h : d ∈ checkJob jobs name job) :
    d.Below ["jobs", name] := by
  have hsteps : ["jobs", name] <+: Pointer.steps (Pointer.child "/jobs" name) :=
    steps_job name ▸ List.prefix_rfl
  unfold checkJob at h
  split at h
  · split at h
    · contradiction
    · refine (below_of_mem_checkNeeds h).widen ?_
      rw [Pointer.steps_child]
      exact hsteps.trans (List.prefix_append _ _)
  · rw [List.mem_singleton.mp h]
    exact below_wrongType hsteps _ _

end

/-- What is found in some of the jobs of a workflow. -/
def foundIn (jobs these : List (String × Value)) : List Diagnostic :=
  these.flatMap fun e => checkJob jobs e.1 e.2

theorem foundIn_append (jobs these those : List (String × Value)) :
    foundIn jobs (these ++ those) = foundIn jobs these ++ foundIn jobs those :=
  List.flatMap_append

theorem foundIn_cons (jobs : List (String × Value)) (name : String) (job : Value)
    (these : List (String × Value)) :
    foundIn jobs ((name, job) :: these) = checkJob jobs name job ++ foundIn jobs these :=
  List.flatMap_cons

theorem exists_below_of_mem_foundIn {these : List (String × Value)} (h : d ∈ foundIn jobs these) :
    ∃ e ∈ these, d.Below ["jobs", e.1] := by
  obtain ⟨e, he, hd⟩ := List.mem_flatMap.mp h
  exact ⟨e, he, below_of_mem_checkJob hd⟩

theorem foundIn_insertEntry (key : String) (value : Value) (these : List (String × Value)) :
    foundIn (Value.insertEntry key value jobs) these = (foundIn jobs these).filter (!lacks key ·) := by
  simp only [foundIn, checkJob_insertEntry, List.filter_flatMap]

/-- What the rules have to say of a workflow before they come to its jobs. -/
def front (entries : List (String × Value)) : List Diagnostic :=
  checkKeys .workflow entries ++ checkAt "on" entries checkOn

theorem mem_front {entries : List (String × Value)} (h : d ∈ front entries) :
    d.code ≠ "unresolved_job" ∧ ∃ key path, d.path? = some path ∧ Pointer.steps path = [key] := by
  have hon : Pointer.steps "/on" = ["on"] := Pointer.steps_child "" "on"
  rcases List.mem_append.mp h with h | h
  · simp only [checkKeys, List.mem_append, List.mem_map] at h
    rcases h with ⟨key, -, rfl⟩ | ⟨key, -, rfl⟩
    · have hcode : (missing (Pointer.child "" key)).code = "required" := rfl
      exact ⟨by simp [hcode], key, _, rfl, Pointer.steps_child "" key⟩
    · have hcode : (unknownKey key).code = "additional_properties" := rfl
      exact ⟨by simp [hcode], key, _, rfl, Pointer.steps_child "" key⟩
  · unfold checkAt at h
    split at h
    · contradiction
    · unfold checkOn at h
      split at h
      · contradiction
      · contradiction
      · contradiction
      · cases List.mem_singleton.mp h
        exact ⟨by simp [noneOf, Diagnostic.ofRule, Diagnostic.withStates, Diagnostic.code], "on", _, rfl,
          hon⟩

theorem not_below_of_mem_front {entries : List (String × Value)} (h : d ∈ front entries)
    (name : String) : ¬d.Below ["jobs", name] := by
  intro hbelow
  obtain ⟨-, key, path, hpath, hsteps⟩ := mem_front h
  obtain ⟨path', hpath', hbegins⟩ := hbelow d (.self d)
  rw [hpath, Option.some.injEq] at hpath'
  subst hpath'
  have hlength := hbegins.length_le
  simp [hsteps] at hlength

theorem front_insertEntry {entries : List (String × Value)} {jobs : Value} (h : Value.Ascending entries)
    (hjobs : entries.lookup "jobs" = some jobs) (jobs' : Value) :
    front (Value.insertEntry "jobs" jobs' entries) = front entries := by
  have hmem : "jobs" ∈ entries.map (·.1) := List.mem_map_of_mem (h.lookup_eq_some.mp hjobs)
  have hkey : ∀ key, hasKey key (Value.insertEntry "jobs" jobs' entries) = hasKey key entries := by
    intro key
    rw [hasKey_insertEntry]
    by_cases heq : key = "jobs"
    · simp [heq, hasKey, hjobs]
    · simp [heq]
  have hon : (Value.insertEntry "jobs" jobs' entries).lookup "on" = entries.lookup "on" := by
    rw [Value.lookup_insertEntry, if_neg (by decide)]
  simp only [front, checkKeys, checkAt, hkey, hon, h.map_fst_insertEntry hmem]

theorem check_workflow_eq {entries jobs : List (String × Value)}
    (hjobs : entries.lookup "jobs" = some (.object jobs)) :
    check .workflow (.object entries) = front entries ++ foundIn jobs jobs := by
  simp only [check, checkWorkflow, checkAt, hjobs, checkJobs, front, foundIn]

/-- One job more in a workflow: of what was found, only that the job is missing is gone, and all that is
new is about the job itself and stands where the job stands among the others. -/
theorem added_job_resolves {entries jobs : List (String × Value)} {name : String}
    (h : (Value.object entries).Ordered) (hjobs : entries.lookup "jobs" = some (.object jobs))
    (hnew : jobs.lookup name = none) (job : Value) :
    let more := Value.insertEntry name job jobs
    let document := Value.object entries
    let document' := Value.object (Value.insertEntry "jobs" (.object more) entries)
    ∃ front before after,
      check .workflow document = front ++ before ++ after ∧
      check .workflow document' = (front ++ before).filter (!lacks name ·) ++
        checkJob more name job ++ after.filter (!lacks name ·) ∧
      (∀ d ∈ front, ∀ other, ¬d.Below ["jobs", other]) ∧
      (∀ d ∈ before, ∃ other, Text.encode other < Text.encode name ∧ d.Below ["jobs", other]) ∧
      (∀ d ∈ after, ∃ other, Text.encode name < Text.encode other ∧ d.Below ["jobs", other]) ∧
      (∀ d ∈ checkJob more name job, d.Below ["jobs", name]) ∧
      ∀ d ∈ check .workflow document', d ∈ check .workflow document ∨ d.Below ["jobs", name] := by
  intro more document document'
  rw [Value.Ordered] at h
  have hascending : Value.Ascending jobs := by
    have hordered := Value.orderedEntries_iff.mp h.2 _ (h.1.lookup_eq_some.mp hjobs)
    rw [Value.Ordered] at hordered
    exact hordered.1
  obtain ⟨before, after, hsplit, hmore, hbefore, hafter⟩ := hascending.exists_insertEntry hnew job
  have hjobs' : (Value.insertEntry "jobs" (.object more) entries).lookup "jobs" =
      some (.object more) := by
    rw [Value.lookup_insertEntry, if_pos rfl]
  have hold : check .workflow document =
      front entries ++ foundIn jobs before ++ foundIn jobs after := by
    rw [check_workflow_eq hjobs, List.append_assoc, ← foundIn_append, ← hsplit]
  have hfront : (front entries).filter (!lacks name ·) = front entries :=
    filter_not_lacks (fun d hd => (mem_front hd).1) name
  have hparts : foundIn more more =
      foundIn more before ++ (checkJob more name job ++ foundIn more after) := by
    rw [← foundIn_cons, ← foundIn_append]
    exact congrArg (foundIn more) hmore
  have hcheck : check .workflow document' =
      (front entries ++ foundIn jobs before).filter (!lacks name ·) ++
        checkJob more name job ++ (foundIn jobs after).filter (!lacks name ·) := by
    rw [check_workflow_eq hjobs', front_insertEntry h.1 hjobs, hparts, List.filter_append, hfront,
      foundIn_insertEntry, foundIn_insertEntry]
    simp only [List.append_assoc]
  refine ⟨front entries, foundIn jobs before, foundIn jobs after, hold, hcheck, ?_, ?_, ?_, ?_, ?_⟩
  · exact fun d hd other => not_below_of_mem_front hd other
  · intro d hd
    obtain ⟨e, he, hbelow⟩ := exists_below_of_mem_foundIn hd
    exact ⟨e.1, Text.encode_lt_encode_iff.mpr (hbefore e he), hbelow⟩
  · intro d hd
    obtain ⟨e, he, hbelow⟩ := exists_below_of_mem_foundIn hd
    exact ⟨e.1, Text.encode_lt_encode_iff.mpr (hafter e he), hbelow⟩
  · exact fun d hd => below_of_mem_checkJob hd
  · intro d hd
    rw [hcheck] at hd
    rw [hold]
    simp only [List.mem_append] at hd ⊢
    rcases hd with (hd | hd) | hd
    · exact .inl (.inl (List.mem_append.mp (List.mem_filter.mp hd).1))
    · exact .inr (below_of_mem_checkJob hd)
    · exact .inl (.inr (List.mem_filter.mp hd).1)

namespace Waiting

/-- Two jobs that wait for a third one, and for something else besides. -/
def waiting : List (String × Value) :=
  [("a", .object [("needs", .array [.string "b", .number "1", .string "d", .string "b"])]),
    ("c", .object [("needs", .string "b")])]

def entries : List (String × Value) := [("jobs", .object waiting), ("on", .null)]

def third : Value := .object [("needs", .array [.string "b", .string "e"])]

def found : List Diagnostic :=
  [noneOf "/on" ["string", "array", "object"] .null, unresolvedJob "/jobs/a/needs" "b",
    wrongType "/jobs/a/needs/1" "string" (.number "1"), unresolvedJob "/jobs/a/needs" "d",
    unresolvedJob "/jobs/a/needs" "b", unresolvedJob "/jobs/c/needs" "b"]

def foundWithThird : List Diagnostic :=
  [noneOf "/on" ["string", "array", "object"] .null,
    wrongType "/jobs/a/needs/1" "string" (.number "1"), unresolvedJob "/jobs/a/needs" "d",
    unresolvedJob "/jobs/b/needs" "e"]

end Waiting

theorem third_job_resolves :
    (Value.object Waiting.entries).Ordered ∧
    Waiting.entries.lookup "jobs" = some (.object Waiting.waiting) ∧ Waiting.waiting.lookup "b" = none ∧
    check .workflow (.object Waiting.entries) = Waiting.found ∧
    check .workflow (.object (Value.insertEntry "jobs"
      (.object (Value.insertEntry "b" Waiting.third Waiting.waiting)) Waiting.entries)) =
      Waiting.foundWithThird ∧
    ∀ d ∈ Waiting.foundWithThird, d ∈ Waiting.found ∨ d.Below ["jobs", "b"] := by
  have hordered : (Value.object Waiting.entries).Ordered := by
    have hsorted : Value.object Waiting.entries = (Value.object Waiting.entries).sorted := by cbv
    rw [hsorted]
    exact Value.ordered_sorted _
  have hfound : check .workflow (.object Waiting.entries) = Waiting.found := by cbv
  have hfound' : check .workflow (.object (Value.insertEntry "jobs"
      (.object (Value.insertEntry "b" Waiting.third Waiting.waiting)) Waiting.entries)) =
      Waiting.foundWithThird := by cbv
  have hjobs : Waiting.entries.lookup "jobs" = some (.object Waiting.waiting) := rfl
  have hnew : Waiting.waiting.lookup "b" = none := rfl
  obtain ⟨_, _, _, -, -, -, -, -, -, h⟩ := added_job_resolves hordered hjobs hnew Waiting.third
  rw [hfound, hfound'] at h
  exact ⟨hordered, hjobs, hnew, hfound, hfound', h⟩

end Rules

end WorkflowCheck
