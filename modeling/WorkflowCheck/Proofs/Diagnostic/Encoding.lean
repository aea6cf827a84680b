import WorkflowCheck.Diagnostic.OfValue
import WorkflowCheck.Proofs.Json.Roundtrip
import WorkflowCheck.Proofs.Text.Digit
import WorkflowCheck.Snapshot

/-! A diagnostic is found again in its value, in the shape that it has. The shape that points into
a document comes first: what was written with a place in a text lacks the path that it asks for. -/

namespace WorkflowCheck

theorem diagnosticValues_eq (errors : List Diagnostic) :
    diagnosticValues errors = errors.map Diagnostic.toValue := by
  induction errors with
  | nil => rfl
  | cons d rest ih => rw [diagnosticValues, ih, List.map_cons]

theorem nestedStateValues_eq (states : List NestedState) :
    nestedStateValues states = states.map NestedState.toValue := by
  induction states with
  | nil => rfl
  | cons s rest ih => rw [nestedStateValues, ih, List.map_cons]

namespace Value

theorem natural?_repr (n : Nat) : Text.natural? 10 n.repr.toList = some n := by
  rw [Nat.toList_repr]
  have h := Text.natural?_digits (fun c hc => Json.Reads.isDigit_of_mem (n := n) hc) Nat.toDigits_ne_nil
  rwa [Nat.ofDigitChars_ten_toDigits] at h

@[simp] theorem word?_number (w : UInt64) : word? (.number w.toNat.repr) = some w := by
  have hlt : w.toNat < Nat.pow 2 64 := w.toNat_lt
  simp only [word?, natural?_repr, Option.bind_some, hlt, if_true, UInt64.ofNat_toNat]

@[simp] theorem text?_string (s : String) : text? (.string s) = some s := rfl

end Value

open Value

mutual

theorem Diagnostic.ofValue?_toValue : ∀ d : Diagnostic, Diagnostic.ofValue? d.toValue = some d
  | .schema code detail path title none => by
    cases detail <;>
      simp [Diagnostic.toValue, Diagnostic.ofValue?, Diagnostic.schemaOf?, statesOfEntries,
        optionalEntry, requiredField?, optionalField?, single?]
  | .schema code detail path title (some states) => by
    have hstates := nestedStatesOfItems?_nestedStateValues states
    cases detail <;>
      simp [Diagnostic.toValue, Diagnostic.ofValue?, Diagnostic.schemaOf?, statesOfEntries,
        optionalEntry, requiredField?, optionalField?, single?, statesOfValue?, hstates]
  | .parse code detail title location => by
    cases location with
    | none =>
      simp [Diagnostic.toValue, Diagnostic.ofValue?, Diagnostic.schemaOf?, Diagnostic.parseOf?,
        statesOfEntries, optionalEntry, requiredField?, optionalField?, single?]
    | some location =>
      simp [Diagnostic.toValue, Diagnostic.ofValue?, Diagnostic.schemaOf?, Diagnostic.parseOf?,
        statesOfEntries, optionalEntry, requiredField?, optionalField?, single?, Location.toValue,
        Location.ofValue?]

theorem diagnosticsOfItems?_diagnosticValues :
    ∀ errors, diagnosticsOfItems? (diagnosticValues errors) = some errors
  | [] => rfl
  | d :: rest => by
    simp [diagnosticValues, diagnosticsOfItems?, Diagnostic.ofValue?_toValue d,
      diagnosticsOfItems?_diagnosticValues rest]

theorem NestedState.ofValue?_toValue : ∀ s : NestedState, NestedState.ofValue? s.toValue = some s
  | .mk errors => by
    simp [NestedState.toValue, NestedState.ofValue?, diagnosticsOfEntries, diagnosticsOfValue?,
      single?, diagnosticsOfItems?_diagnosticValues errors]

theorem nestedStatesOfItems?_nestedStateValues :
    ∀ states, nestedStatesOfItems? (nestedStateValues states) = some states
  | [] => rfl
  | s :: rest => by
    simp [nestedStateValues, nestedStatesOfItems?, NestedState.ofValue?_toValue s,
      nestedStatesOfItems?_nestedStateValues rest]

end

theorem diagnosticValues_injective : Function.Injective diagnosticValues := by
  intro ds es h
  have hds := diagnosticsOfItems?_diagnosticValues ds
  rw [h, diagnosticsOfItems?_diagnosticValues es] at hds
  exact (Option.some.inj hds).symm

theorem State.toValue_injective : Function.Injective State.toValue := by
  rintro ⟨k, ds⟩ ⟨k', es⟩ h
  simp only [State.toValue, Value.object.injEq, List.cons.injEq, Prod.mk.injEq, true_and,
    Value.string.injEq, Value.array.injEq, and_true] at h
  obtain ⟨hk, hd⟩ := h
  have hkind : k = k' := by
    cases k <;> cases k' <;> first | rfl | exact absurd hk (by decide)
  rw [hkind, diagnosticValues_injective hd]

theorem Value.exact_word (w : UInt64) : Exact (.number (toString w.toNat)) :=
  ⟨w.toNat, w.toNat_lt, rfl⟩

theorem Location.exact_toValue (location : Location) : location.toValue.Exact :=
  ⟨exact_word _, exact_word _, exact_word _, trivial⟩

mutual

theorem Diagnostic.exact_toValue : ∀ d : Diagnostic, d.toValue.Exact
  | .schema code detail path title none => by
    cases detail <;> simp [Diagnostic.toValue, optionalEntry, Exact, ExactEntries]
  | .schema code detail path title (some states) => by
    have hstates := exactItems_nestedStateValues states
    cases detail <;> simp [Diagnostic.toValue, optionalEntry, Exact, ExactEntries, hstates]
  | .parse code detail title location => by
    cases location with
    | none => simp [Diagnostic.toValue, optionalEntry, Exact, ExactEntries]
    | some location =>
      simp [Diagnostic.toValue, optionalEntry, Exact, ExactEntries, location.exact_toValue]

theorem exactItems_diagnosticValues : ∀ errors, ExactItems (diagnosticValues errors)
  | [] => trivial
  | d :: rest => ⟨d.exact_toValue, exactItems_diagnosticValues rest⟩

theorem NestedState.exact_toValue : ∀ s : NestedState, s.toValue.Exact
  | .mk errors => ⟨exactItems_diagnosticValues errors, trivial⟩

theorem exactItems_nestedStateValues : ∀ states, ExactItems (nestedStateValues states)
  | [] => trivial
  | s :: rest => ⟨s.exact_toValue, exactItems_nestedStateValues rest⟩

end

theorem State.exact_toValue (s : State) : s.toValue.Exact :=
  ⟨trivial, exactItems_diagnosticValues s.errors, trivial⟩

end WorkflowCheck
