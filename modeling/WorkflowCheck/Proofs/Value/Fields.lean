import WorkflowCheck.Diagnostic.OfValue

/-! Fields of a record among the entries of an object, in which a key may stand several times. A
field is found if its key stands once. -/

namespace WorkflowCheck.Value

/-- The key stands once among the entries, with the given value. -/
def Once {α : Type} (key : String) (x : α) (entries : List (String × α)) : Prop :=
  ∃ before after, entries = before ++ (key, x) :: after ∧ ∀ e ∈ before ++ after, e.1 ≠ key

def Missing {α : Type} (key : String) (entries : List (String × α)) : Prop :=
  ∀ e ∈ entries, e.1 ≠ key

def Unset (key : String) (entries : List (String × Value)) : Prop :=
  Missing key entries ∨ Once key .null entries

/-- A field that may be missing or null, as something that its value stands for. -/
def Optionally {α : Type} (P : Value → α → Prop) (key : String)
    (entries : List (String × Value)) : Option α → Prop
  | none => Unset key entries
  | some x => ∃ v, Once key v entries ∧ P v x

section

variable {α β : Type} {key : String}

theorem Once.mem {x : α} {entries : List (String × α)} (h : Once key x entries) :
    (key, x) ∈ entries := by
  obtain ⟨before, after, rfl, -⟩ := h
  simp

theorem single?_eq_some_none {entries : List (String × α)} :
    single? key entries = some none ↔ Missing key entries := by
  have hmissing : Missing key entries ↔ entries.filter (·.1 == key) = [] := by
    simp [Missing, List.filter_eq_nil_iff]
  rw [hmissing]
  unfold single?
  generalize entries.filter _ = found
  rcases found with _ | ⟨e, _ | ⟨e', rest⟩⟩ <;> simp

theorem single?_eq_some_some {entries : List (String × α)} {x : α} :
    single? key entries = some (some x) ↔ Once key x entries := by
  have honce : Once key x entries ↔ ∃ k, entries.filter (·.1 == key) = [(k, x)] := by
    constructor
    · rintro ⟨before, after, rfl, h⟩
      rw [List.forall_mem_append] at h
      refine ⟨key, List.filter_eq_cons_iff.mpr ⟨before, after, rfl, ?_, by simp, ?_⟩⟩
      · simpa using h.1
      · simpa [List.filter_eq_nil_iff] using h.2
    · rintro ⟨k, h⟩
      obtain ⟨before, after, rfl, hbefore, hk, hafter⟩ := List.filter_eq_cons_iff.mp h
      obtain rfl : k = key := by simpa using hk
      refine ⟨before, after, rfl, List.forall_mem_append.mpr ⟨?_, ?_⟩⟩
      · simpa using hbefore
      · simpa [List.filter_eq_nil_iff] using hafter
  rw [honce]
  unfold single?
  generalize entries.filter _ = found
  rcases found with _ | ⟨e, _ | ⟨e', rest⟩⟩ <;> simp [Prod.ext_iff]

theorem single?_map (f : α → β) (entries : List (String × α)) :
    single? key (entries.map fun e => (e.1, f e.2)) = (single? key entries).map (Option.map f) := by
  unfold single?
  rw [List.filter_map]
  simp only [Function.comp_def]
  generalize entries.filter _ = found
  rcases found with _ | ⟨e, _ | ⟨e', rest⟩⟩ <;> rfl

theorem requiredField?_eq_some {read : Value → Option α} {entries : List (String × Value)} {x : α} :
    requiredField? read key entries = some x ↔ ∃ v, Once key v entries ∧ read v = some x := by
  simp only [requiredField?, Option.bind_eq_some_iff]
  constructor
  · rintro ⟨_, hsingle, v, rfl, hv⟩
    exact ⟨v, single?_eq_some_some.mp hsingle, hv⟩
  · rintro ⟨v, honce, hv⟩
    exact ⟨some v, single?_eq_some_some.mpr honce, v, rfl, hv⟩

theorem optionalField?_eq_some {read : Value → Option α} (hnull : read .null = none)
    {entries : List (String × Value)} {o : Option α} :
    optionalField? read key entries = some o ↔
      Optionally (fun v x => read v = some x) key entries o := by
  simp only [optionalField?, Option.bind_eq_some_iff]
  cases o with
  | none =>
    constructor
    · rintro ⟨_ | v, hsingle, hv⟩
      · exact .inl (single?_eq_some_none.mp hsingle)
      · cases v <;> simp_all [single?_eq_some_some, Optionally, Unset]
    · rintro (h | h)
      · exact ⟨none, single?_eq_some_none.mpr h, rfl⟩
      · exact ⟨some .null, single?_eq_some_some.mpr h, rfl⟩
  | some x =>
    constructor
    · rintro ⟨_ | v, hsingle, hv⟩
      · cases hv
      · refine ⟨v, single?_eq_some_some.mp hsingle, ?_⟩
        cases v <;> simp_all
    · rintro ⟨v, h, hv⟩
      refine ⟨some v, single?_eq_some_some.mpr h, ?_⟩
      cases v <;> simp_all

theorem text?_eq_some {v : Value} {s : String} : text? v = some s ↔ v = .string s := by
  cases v <;> simp [text?]

theorem requiredText_eq_some {entries : List (String × Value)} {s : String} :
    requiredField? text? key entries = some s ↔ Once key (.string s) entries := by
  simp [requiredField?_eq_some, text?_eq_some]

theorem optionalText_eq_some {entries : List (String × Value)} {o : Option String} :
    optionalField? text? key entries = some o ↔
      Optionally (fun v s => v = .string s) key entries o := by
  rw [optionalField?_eq_some rfl]
  simp only [text?_eq_some]

end

end WorkflowCheck.Value
