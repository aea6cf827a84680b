import WorkflowCheck.Proofs.Engine.Depth
import WorkflowCheck.Proofs.Json.Record
import WorkflowCheck.Snapshot.Decoding

/-! A state is read back from its snapshot, and from the compact text of its value, if it nests no
deeper than a reader goes. -/

namespace WorkflowCheck

open Json Value

variable {l : Layout}

theorem Diagnostic.spells_decoder (d : Diagnostic) {n : Nat} (hn : d.toValue.depth ≤ n)
    (level : Nat) : Spells (Diagnostic.decoder n) (l.write level d.toValue) d := by
  refine (spells_write l level n d.toValue d.exact_toValue hn).bind fun _ => ?_
  rw [Diagnostic.ofValue?_toValue]
  exact .pure d _

theorem forall₂_spells_decoder {n : Nat} (level : Nat) {errors : List Diagnostic}
    (h : ∀ d ∈ errors, d.toValue.depth ≤ n) :
    List.Forall₂ (Spells (Diagnostic.decoder n)) (l.writeItems level (diagnosticValues errors))
      errors := by
  induction errors with
  | nil => exact .nil
  | cons d rest ih =>
    exact .cons (d.spells_decoder (h d List.mem_cons_self) level)
      (ih fun e he => h e (List.mem_cons_of_mem d he))

theorem Kind.lookup_names (kind : Kind) : Kind.names.lookup kind.name = some kind := by
  cases kind <;> decide

namespace State

def entries (l : Layout) (level : Nat) (s : State) : List (String × List Char) :=
  [("actionType", quote s.kind.name),
    ("errors", l.enclose (level + 1) '[' ']' (l.writeItems (level + 2) (diagnosticValues s.errors)))]

theorem write_toValue (level : Nat) (s : State) :
    l.write level s.toValue =
      l.enclose level '{' '}' (RecordShape.texts l (s.entries l level)) := rfl

theorem fills_entries {s : State} {n : Nat} (h : ∀ d ∈ s.errors, d.toValue.depth ≤ n) (level : Nat) :
    shape.Fills (n + 1) {} (s.entries l level) { kind := some s.kind, errors := some s.errors } := by
  have hkind := Spells.choice s.kind.lookup_names (n + 1)
  have herrors : Spells (Decoder.list Diagnostic.decoder (n + 1)) (l.enclose (level + 1) '[' ']'
      (l.writeItems (level + 2) (diagnosticValues s.errors))) s.errors :=
    .list (level + 1) (forall₂_spells_decoder (level + 2) h)
  exact .cons rfl rfl (hkind.bind fun _ => .pure (Draft.mk (some s.kind) none) _)
    (.cons rfl rfl (herrors.bind fun _ => .pure _ _) (.nil _))

theorem spells_toValue {s : State} {n : Nat} (hn : s.toValue.depth ≤ n) (level : Nat) :
    Spells (shape.decode n) (l.write level s.toValue) s := by
  simp only [toValue, depth, depthOfEntries] at hn
  obtain ⟨m, rfl⟩ : ∃ m, n = m + 2 := ⟨n - 2, by omega⟩
  have herrors : ∀ d ∈ s.errors, d.toValue.depth ≤ m :=
    depthOfItems_diagnosticValues_le.mp (by omega)
  rw [write_toValue]
  exact RecordShape.spells_decode (fills_entries herrors level) rfl level

theorem read_write {s : State} (hn : s.toValue.depth ≤ nestingLimit) {bs : List Char}
    (hb : Blank bs) : State.read (String.ofList (l.write 0 s.toValue ++ bs)) = .ok s := by
  have hs : Stops bs := by simpa using hb.stops .nil
  refine readAll_eq_ok ?_ hb
  rw [String.toList_ofList]
  exact (spells_toValue hn 0).reads .nil hs

end State

/-- What is written for a state is read back as that state, laid out or compact, unless it nests
too deep for a reader. The built-in engine finds no state that does. -/
theorem state_roundtrip :
    (∀ s : State, s.toValue.depth ≤ nestingLimit →
      State.read s.snapshot = .ok s ∧ State.read (compactText s.toValue) = .ok s) ∧
    ∀ kind text, (Engine.builtin.validate kind text).toValue.depth ≤ nestingLimit := by
  refine ⟨fun s hn => ⟨?_, ?_⟩, fun kind text => ?_⟩
  · rw [State.snapshot, pretty_eq]
    exact State.read_write hn (by simp [Blank, isBlank])
  · rw [compactText, compact_eq 0, ← List.append_nil (Layout.write _ _ _)]
    exact State.read_write hn .nil
  · exact Nat.le_trans (Engine.depth_builtin_le kind text) (by decide)

/-- Both shapes of diagnostics, with and without what they may leave out. -/
def State.mixed : State :=
  ⟨.workflow,
    [.schema "any_of" none "/on" "\t\u00e9 \"\\" (some
        [.mk [], .mk [.schema "wrong_type" (some "") "" "" (some []),
          .parse "invalid_yaml" "" "" (some ⟨18446744073709551615, 0, 1⟩)]]),
      .parse "invalid_yaml" "path" "Invalid YAML" none]⟩

theorem mixed_state_roundtrip :
    State.mixed.toValue.depth ≤ nestingLimit ∧ State.read State.mixed.snapshot = .ok State.mixed ∧
      State.read (compactText State.mixed.toValue) = .ok State.mixed :=
  ⟨by decide, state_roundtrip.1 State.mixed (by decide)⟩

end WorkflowCheck
