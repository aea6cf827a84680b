import Mathlib
import WorkflowCheck.Proofs.Rules.Completeness

/-! What the rules find points at its own fault: the path of a diagnostic, read as a pointer, leads
to the place in the document that the diagnostic is about. -/

namespace WorkflowCheck

variable {document : Value} {kind : Kind}

/-- A diagnostic itself, and those in its nested states however deep. -/
inductive Diagnostic.Inside : Diagnostic → Diagnostic → Prop where
  | self (d : Diagnostic) : Inside d d
  | nested {d e : Diagnostic} {code path title : String} {detail : Option String}
    {states : List NestedState} {errors : List Diagnostic} (hstate : .mk errors ∈ states)
    (hd : d ∈ errors) (h : Inside e d) : Inside e (.schema code detail path title (some states))

namespace Rules

open Value (Step)
open Pointer (resolve?)

theorem step?_text {v w : Value} {step : Step} (h : v.step? step = some w) :
    Pointer.step? v step.text = some w := by
  cases step with
  | key key => cases v with
    | object entries => exact h
    | _ => nomatch h
  | index i => cases v with
    | array items =>
      have hdecimal : (toString i).toNat? = some i := Nat.toNat?_repr i
      rw [Step.text, Pointer.step?, hdecimal, Option.filter_some, if_pos (decide_eq_true rfl)]
      exact h
    | _ => nomatch h

theorem foldlM_text {v : Value} {steps : List Step} (h : document.at? steps = some v) :
    (steps.map Step.text).foldlM Pointer.step? document = some v := by
  induction steps generalizing document with
  | nil => exact h
  | cons step rest ih =>
    obtain ⟨w, hw, hrest⟩ := Option.bind_eq_some_iff.mp h
    rw [List.map_cons, List.foldlM_cons, step?_text hw]
    exact ih hrest

theorem steps_pointerTo (steps : List Step) :
    Pointer.steps (pointerTo steps) = steps.map Step.text := Pointer.steps_ofSteps _

theorem resolve?_pointerTo {v : Value} {steps : List Step} (h : document.at? steps = some v) :
    resolve? document (pointerTo steps) = some v := by
  rw [resolve?, steps_pointerTo]
  exact foldlM_text h

/-- What a wrong type is told with. -/
def typeDetail (expected : String) (actual : Value) : Option String :=
  some ("The value must be " ++ expected ++ ", found " ++ actual.typeName)

inductive PointsAtFault (document : Value) (kind : Kind) : Diagnostic → Prop where
  | required {path title key : String} {parent : List String} {entries : List (String × Value)}
    (steps : Pointer.steps path = parent ++ [key])
    (object : parent.foldlM Pointer.step? document = some (.object entries))
    (absent : entries.lookup key = none) :
    PointsAtFault document kind (.schema "required" none path title none)
  | additionalProperties {path title key : String} {detail : Option String} {v : Value}
    (steps : Pointer.steps path = [key]) (present : resolve? document path = some v)
    (excess : key ∉ allowedKeys kind) :
    PointsAtFault document kind (.schema "additional_properties" detail path title none)
  | wrongType {path title expected : String} {place : List Step} {types : List String} {v : Value}
    (typed : Typed kind place types) (steps : Pointer.steps path = place.map Step.text)
    (present : resolve? document path = some v) (allowed : expected ∈ types)
    (wrong : v.typeName ≠ expected) :
    PointsAtFault document kind (.schema "wrong_type" (typeDetail expected v) path title none)
  | anyOf {path title title' : String} {place : List Step} {types : List String} {v : Value}
    (typed : Typed kind place types) (steps : Pointer.steps path = place.map Step.text)
    (present : resolve? document path = some v) (wrong : v.typeName ∉ types) :
    PointsAtFault document kind (.schema "any_of" none path title (some (types.map fun expected =>
      .mk [.schema "wrong_type" (typeDetail expected v) path title' none])))
  | unresolvedJob {path title job need : String} {jobs : List (String × Value)} {v : Value}
    (steps : Pointer.steps path = ["jobs", job, "needs"])
    (present : resolve? document path = some v)
    (named : v = .string need ∨ ∃ items, v = .array items ∧ .string need ∈ items)
    (object : resolve? document "/jobs" = some (.object jobs)) (absent : jobs.lookup need = none) :
    PointsAtFault document kind
      (.schema "unresolved_job" (some ("unresolved job " ++ need)) path title none)

theorem eq_of_inside {e : Diagnostic} {code path title : String} {detail : Option String}
    (h : e.Inside (.schema code detail path title none)) :
    e = .schema code detail path title none := by
  cases h
  rfl

theorem pointsAtFault_of_missing {steps : List Step} {key : String}
    {entries : List (String × Value)} (hobject : document.at? steps = some (.object entries))
    (habsent : entries.lookup key = none) :
    PointsAtFault document kind (missing (pointerTo (steps ++ [.key key]))) := by
  have hsteps : Pointer.steps (pointerTo (steps ++ [.key key])) = steps.map Step.text ++ [key] := by
    rw [steps_pointerTo, List.map_append]
    rfl
  exact .required hsteps (foldlM_text hobject) habsent

theorem pointsAtFault_of_unknown {key : String} {v : Value}
    (hpresent : document.at? [.key key] = some v) (hexcess : key ∉ allowedKeys kind) :
    PointsAtFault document kind (unknownKey key) := by
  have hpath : pointerTo [.key key] = Pointer.child "" key := rfl
  have hresolve := resolve?_pointerTo hpresent
  rw [hpath] at hresolve
  exact .additionalProperties (Pointer.steps_child "" key) hresolve hexcess

section

variable {steps : List Step} {types : List String} {v : Value}

theorem pointsAtFault_of_wrongType (htyped : Typed kind steps types)
    (hpresent : document.at? steps = some v) (hwrong : v.typeName ∉ types) {expected : String}
    (hexpected : expected ∈ types) :
    PointsAtFault document kind (wrongType (pointerTo steps) expected v) :=
  .wrongType htyped (steps_pointerTo steps) (resolve?_pointerTo hpresent) hexpected
    (fun h => hwrong (h ▸ hexpected))

theorem pointsAtFault_of_noneOf (htyped : Typed kind steps types)
    (hpresent : document.at? steps = some v) (hwrong : v.typeName ∉ types) {e : Diagnostic}
    (he : e.Inside (noneOf (pointerTo steps) types v)) : PointsAtFault document kind e := by
  cases he with
  | self => exact .anyOf htyped (steps_pointerTo steps) (resolve?_pointerTo hpresent) hwrong
  | nested hstate hd h =>
    obtain ⟨expected, hexpected, hmk⟩ := List.mem_map.mp hstate
    cases hmk
    cases List.mem_singleton.mp hd
    rw [eq_of_inside h]
    exact pointsAtFault_of_wrongType htyped hpresent hwrong hexpected

end

theorem exists_needs_of_need {job need : String} {index : Option Nat}
    (h : document.at? (needSteps job index) = some (.string need)) :
    ∃ v, document.at? (needSteps job none) = some v ∧
      (v = .string need ∨ ∃ items, v = .array items ∧ .string need ∈ items) := by
  cases index with
  | none => exact ⟨_, h, .inl rfl⟩
  | some i =>
    have hat : document.at? (needSteps job none ++ [.index i]) = some (.string need) := h
    obtain ⟨items, hitems, hget⟩ := Value.at?_index_eq_some.mp hat
    exact ⟨_, hitems, .inr ⟨items, rfl, List.mem_of_getElem? hget⟩⟩

theorem exists_jobs_of_need {job : String} {index : Option Nat} {v : Value}
    (h : document.at? (needSteps job index) = some v) :
    ∃ jobs, document.at? [.key "jobs"] = some (.object jobs) := by
  have hjob : document.at? ([.key "jobs"] ++ [.key job] ++ (.key "needs" :: index.toList.map .index)) =
      some v := h
  obtain ⟨_, hentries⟩ := Value.exists_at?_of_append hjob
  obtain ⟨jobs, hjobs, -⟩ := Value.at?_key_eq_some.mp hentries
  exact ⟨jobs, hjobs⟩

theorem pointsAtFault_of_unresolved {job need : String} {index : Option Nat}
    (hpresent : document.at? (needSteps job index) = some (.string need))
    (hdangling : ¬IsJob document need) :
    PointsAtFault document kind (unresolvedJob (pointerTo (needSteps job none)) need) := by
  obtain ⟨v, hv, hnamed⟩ := exists_needs_of_need hpresent
  obtain ⟨jobs, hjobs⟩ := exists_jobs_of_need hpresent
  have habsent : jobs.lookup need = none := by
    rw [isJob_iff hjobs, hasKey, Bool.not_eq_true, Option.isSome_eq_false_iff] at hdangling
    exact Option.isNone_iff_eq_none.mp hdangling
  exact .unresolvedJob (steps_pointerTo _) (resolve?_pointerTo hv) hnamed (resolve?_pointerTo hjobs)
    habsent

/-- Every diagnostic of a check, nested ones included, leads to what it is about. -/
theorem points_at_fault (h : document.Ordered) {d e : Diagnostic} (hd : d ∈ check kind document)
    (he : e.Inside d) : PointsAtFault document kind e := by
  obtain ⟨x, hx, rfl⟩ := (reports_check h kind).exists_of_mem hd
  cases hx with
  | missing _ object absent =>
    rw [eq_of_inside he]
    exact pointsAtFault_of_missing object absent
  | unknown present excess =>
    rw [eq_of_inside he]
    exact pointsAtFault_of_unknown present excess
  | @mistyped _ steps types v typed present wrong =>
    by_cases hone : ∃ expected, types = [expected]
    · obtain ⟨expected, rfl⟩ := hone
      rw [eq_of_inside he]
      exact pointsAtFault_of_wrongType typed present wrong (List.mem_singleton_self _)
    · -- Only a single type is told by itself; any other list becomes a list of alternatives.
      have hmany : (Violation.mistyped steps types v).diagnostic = noneOf (pointerTo steps) types v := by
        unfold Violation.diagnostic
        split <;> simp_all
      rw [hmany] at he
      exact pointsAtFault_of_noneOf typed present wrong he
  | unresolved present dangling =>
    rw [eq_of_inside he]
    exact pointsAtFault_of_unresolved present dangling

namespace Slashed

/-- Jobs with an empty name and with a name of nothing but what pointers escape. -/
def workflow : Value := .sorted <| .object [("on", .string "push"), ("jobs", .object
  [("", .object [("needs", .array [.string "/"])]), ("~1/", .object [("needs", .null)])])]

def found : Diagnostic := noneOf "/jobs/~01~1/needs" ["string", "array"] .null

def nested : Diagnostic := wrongType "/jobs/~01~1/needs" "array" .null

end Slashed

theorem slashed_points_at_fault :
    Slashed.workflow.Ordered ∧ Slashed.found ∈ check .workflow Slashed.workflow ∧
      Slashed.nested.Inside Slashed.found ∧
      PointsAtFault Slashed.workflow .workflow Slashed.nested := by
  have hordered : Slashed.workflow.Ordered := Value.ordered_sorted _
  have hcheck : check .workflow Slashed.workflow =
      [unresolvedJob "/jobs//needs" "/", Slashed.found] := by cbv
  have hfound : Slashed.found ∈ check .workflow Slashed.workflow := by
    rw [hcheck]
    exact List.mem_cons_of_mem _ List.mem_cons_self
  have hnested : Slashed.nested.Inside Slashed.found :=
    .nested (List.mem_cons_of_mem _ List.mem_cons_self) List.mem_cons_self (.self _)
  exact ⟨hordered, hfound, hnested, points_at_fault hordered hfound hnested⟩

end Rules

end WorkflowCheck
