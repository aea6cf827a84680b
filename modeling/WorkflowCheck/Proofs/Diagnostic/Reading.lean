import WorkflowCheck.Proofs.Diagnostic.Shapes
import WorkflowCheck.Proofs.Json.Roundtrip
import WorkflowCheck.Snapshot.Decoding

/-! Diagnostics read from JSON text. The text is read as a value first, and the shape of that value
decides, whatever else stands in it. -/

namespace WorkflowCheck

namespace Json

variable {α β : Type} {p : Read α} {text : String} {x : α} {c c' : Cursor}

theorem Read.start_eq (c : Cursor) : Read.start c = .ok (c.skipBlanks.rest.head?, c.skipBlanks) :=
  rfl

theorem bind_of_ok {f : α → Read β} (h : p c = .ok (x, c')) : (p >>= f) c = f x c' := by
  change (p c >>= fun r => f r.1 r.2) = _
  rw [h]
  rfl

theorem bind_of_error {f : α → Read β} {stop : Stop} (h : p c = .error stop) :
    (p >>= f) c = .error stop := by
  change (p c >>= fun r => f r.1 r.2) = _
  rw [h]
  rfl

theorem readAll_of_ok (h : p ⟨text.toList, 0⟩ = .ok (x, c)) : readAll p text =
    if c.skipBlanks.rest = [] then .ok x
    else .error ⟨.trailingCharacters, some (Fault.lineAndColumn text c.skipBlanks.ahead)⟩ := by
  unfold readAll
  simp only [StateT.run]
  rw [bind_of_ok h, bind_of_ok (Read.start_eq c)]
  cases c.skipBlanks.rest <;> rfl

theorem readAll_of_loose {problem : Problem} (h : p ⟨text.toList, 0⟩ = .error (.loose problem c)) :
    readAll p text = .error ⟨problem, none⟩ := by
  unfold readAll
  simp only [StateT.run]
  rw [bind_of_error h]

theorem exists_cursor_of_readAll (h : readAll p text = .ok x) :
    ∃ c, p ⟨text.toList, 0⟩ = .ok (x, c) ∧ c.skipBlanks.rest = [] := by
  cases hp : p ⟨text.toList, 0⟩ with
  | error stop =>
    unfold readAll at h
    simp only [StateT.run] at h
    rw [bind_of_error hp] at h
    cases stop <;> cases h
  | ok r =>
    obtain ⟨y, c⟩ := r
    rw [readAll_of_ok hp] at h
    split at h
    · next hend => exact ⟨c, by rw [Except.ok.inj h], hend⟩
    · cases h

/-- A text of a value is read as the diagnostic that the value is read as. -/
theorem decode_diagnostic {v : Value} (h : parse text = .ok v) :
    decode Diagnostic.decoder text =
      match Diagnostic.ofValue? v with
      | some d => .ok d
      | none => .error ⟨.noShape "ValidationError", none⟩ := by
  obtain ⟨c, hvalue, hend⟩ := exists_cursor_of_readAll h
  have hstep : Diagnostic.decoder nestingLimit ⟨text.toList, 0⟩ = _ := bind_of_ok hvalue
  cases hread : Diagnostic.ofValue? v with
  | some d =>
    rw [hread] at hstep
    rw [decode, readAll_of_ok hstep, if_pos hend]
  | none =>
    rw [hread] at hstep
    rw [decode, readAll_of_loose hstep]

end Json

open Diagnostic

/-- A text that is read as a value gives a diagnostic that points into a document exactly if the
value has that shape, one with a place in a text exactly if it has only the other shape, and a
fault if it has neither. The diagnostic holds what was found. -/
theorem diagnostic_read_exact {text : String} {v : Value} (h : Json.parse text = .ok v) :
    let read := Json.decode Diagnostic.decoder text
    (∀ d, read = .ok d ↔ ReadFrom v d) ∧
      ((∃ code detail path title states, read = .ok (.schema code detail path title states)) ↔
        SchemaShaped v) ∧
      ((∃ code detail title location, read = .ok (.parse code detail title location)) ↔
        ¬SchemaShaped v ∧ ParseShaped v) ∧
      (read = .error ⟨.noShape "ValidationError", none⟩ ↔ ¬SchemaShaped v ∧ ¬ParseShaped v) := by
  have hok (d : Diagnostic) :
      Json.decode Diagnostic.decoder text = .ok d ↔ Diagnostic.ofValue? v = some d := by
    rw [Json.decode_diagnostic h]
    cases Diagnostic.ofValue? v <;> simp
  have herror : Json.decode Diagnostic.decoder text = .error ⟨.noShape "ValidationError", none⟩ ↔
      Diagnostic.ofValue? v = none := by
    rw [Json.decode_diagnostic h]
    cases Diagnostic.ofValue? v <;> simp
  simp only [hok, herror]
  exact ⟨fun d => ofValue?_eq_some_iff, exists_schema_iff, exists_parse_iff, ofValue?_eq_none_iff⟩

/-- It has all fields of both shapes, but what is in its nested states is no diagnostic. -/
def Value.misnested : Value :=
  .object [("code", .string "c"), ("path", .string "/"), ("title", .string "t"),
    ("detail", .string "d"),
    ("states", .array [.object [("errors", .array [.object [("code", .null)]])]])]

theorem misnested_read : ∃ text, Json.parse text = .ok Value.misnested ∧
    Json.decode Diagnostic.decoder text = .ok (.parse "c" "d" "t" none) ∧
      ¬SchemaShaped Value.misnested := by
  have hexact : Value.misnested.Exact := by
    simp [Value.misnested, Value.Exact, Value.ExactEntries, Value.ExactItems]
  have hvalue := Json.readAll_write .dense hexact (by decide : _ ≤ Json.nestingLimit) .nil
  obtain ⟨hread, -, hparse, -⟩ := diagnostic_read_exact hvalue
  have hdiagnostic : ReadFrom Value.misnested (.parse "c" "d" "t" none) :=
    ofValue?_eq_some_iff.mp rfl
  have hdecoded := (hread _).mpr hdiagnostic
  exact ⟨_, hvalue, hdecoded, (hparse.mp ⟨_, _, _, _, hdecoded⟩).1⟩

end WorkflowCheck
