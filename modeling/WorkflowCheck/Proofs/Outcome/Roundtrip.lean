import WorkflowCheck.Outcome.Decoding
import WorkflowCheck.Proofs.Except
import WorkflowCheck.Proofs.FileTree.Reading
import WorkflowCheck.Proofs.Json.Double
import WorkflowCheck.Proofs.Snapshot.Roundtrip
import WorkflowCheck.Proofs.Timestamp

/-! A summary has a JSON form exactly if all paths in it are texts, and its outcomes are read back from
that form, all but the texts of their snapshots, which are no part of it. -/

namespace WorkflowCheck

open Json

variable {l : Layout}

/-- What clocks tell: a moment of the calendar, and no more seconds than 64 bits count. -/
structure Timing.Clocked (timing : Timing) : Prop where
  start : timing.start.Valid
  elapsed : ∃ m e, timing.elapsed = .finite false m e ∧ m * 2 ^ e.toNat ≤ 2 ^ 64 * 2 ^ (-e).toNat

theorem Timestamp.spells_decoder {t : Timestamp} (h : t.Valid) (depth : Nat) :
    Spells (Timestamp.decoder depth) (quote t.text) t :=
  .text (by simp only [parse_text h]; rfl) depth

theorem Timing.exists_spells_elapsed {timing : Timing} (h : timing.Clocked) (level depth : Nat) :
    ∃ y, Spells (Decoder.double depth) (l.write level timing.elapsed.toValue) y := by
  obtain ⟨m, e, heq, hle⟩ := h.elapsed
  have hless : m * 2 ^ e.toNat < 10 ^ 20 * 2 ^ (-e).toNat :=
    Nat.lt_of_le_of_lt hle (Nat.mul_lt_mul_of_pos_right (by decide) (by positivity))
  obtain ⟨text, htext, hwritten⟩ := Decimal.Double.exists_shortest?_eq hless
  have hvalue : timing.elapsed.toValue = .number text := by rw [Decimal.Double.toValue, heq, htext]
  rw [hvalue]
  exact exists_spells_double hwritten depth

theorem Mode.lookup_names (mode : Mode) : Mode.names.lookup mode.name = some mode := by
  cases mode <;> decide

theorem spells_boolean (b : Bool) (level depth : Nat) :
    Spells (Decoder.boolean depth) (l.write level (.boolean b)) b := by
  cases b with
  | true =>
    refine ⟨⟨'t', _, rfl, rfl, by decide⟩, fun hb _ => ?_⟩
    exact (Reads.begin hb rfl _).bind (Reads.word_true _)
  | false =>
    refine ⟨⟨'f', _, rfl, rfl, by decide⟩, fun hb _ => ?_⟩
    exact (Reads.begin hb rfl _).bind (Reads.word_false _)

theorem pathValue?_eq_some {path : Bytes} {v : Value} :
    pathValue? path = some v ↔ ∃ text, path = Text.encode text ∧ v = .string text := by
  rw [pathValue?, Option.map_eq_some_iff]
  constructor
  · rintro ⟨text, htext, rfl⟩
    exact ⟨text, Text.decode?_eq_some.mp htext, rfl⟩
  · rintro ⟨text, htext, rfl⟩
    exact ⟨text, Text.decode?_eq_some.mpr htext, rfl⟩

theorem spells_path (text : String) (depth : Nat) :
    Spells (pathDecoder depth) (quote text) (Text.encode text) := by
  let convert : String → Except Problem Bytes := fun s => .ok (Text.encode s)
  have hconvert : convert text = .ok (Text.encode text) := rfl
  exact .text hconvert depth

namespace Outcome

/-- Without the text of the snapshot. -/
def listed (o : Outcome) : Outcome := { o with text := "" }

/-- Both paths are texts. -/
def Textual (o : Outcome) : Prop :=
  (Text.decode? o.document).isSome = true ∧ (Text.decode? o.snapshot).isSome = true

theorem toValue?_eq_some {o : Outcome} {v : Value} :
    o.toValue? = some v ↔ ∃ document snapshot, o.document = Text.encode document ∧
      o.snapshot = Text.encode snapshot ∧ v = .object
        [("fixture_path", .string document), ("snapshot_path", .string snapshot),
          ("action_type", .string o.kind.name), ("matched", .boolean o.matched),
          ("updated", .boolean o.updated)] := by
  simp only [toValue?, Option.bind_eq_bind, Option.bind_eq_some_iff, pathValue?_eq_some]
  constructor
  · rintro ⟨_, ⟨document, hdocument, rfl⟩, _, ⟨snapshot, hsnapshot, rfl⟩, hv⟩
    exact ⟨document, snapshot, hdocument, hsnapshot, (Option.some.inj hv).symm⟩
  · rintro ⟨document, snapshot, hdocument, hsnapshot, rfl⟩
    exact ⟨_, ⟨document, hdocument, rfl⟩, _, ⟨snapshot, hsnapshot, rfl⟩, rfl⟩

theorem exists_toValue?_iff {o : Outcome} : (∃ v, o.toValue? = some v) ↔ o.Textual := by
  simp only [toValue?_eq_some, Textual, Option.isSome_iff_exists, Text.decode?_eq_some]
  constructor
  · rintro ⟨_, document, snapshot, hdocument, hsnapshot, -⟩
    exact ⟨⟨document, hdocument⟩, ⟨snapshot, hsnapshot⟩⟩
  · rintro ⟨⟨document, hdocument⟩, ⟨snapshot, hsnapshot⟩⟩
    exact ⟨_, document, snapshot, hdocument, hsnapshot, rfl⟩

theorem spells_toValue? {o : Outcome} {v : Value} (h : o.toValue? = some v) (level n : Nat) :
    Spells (shape.decode (n + 1)) (l.write level v) o.listed := by
  obtain ⟨document, snapshot, hdocument, hsnapshot, rfl⟩ := toValue?_eq_some.mp h
  have hkind : Spells (Kind.decoder n) (quote o.kind.name) o.kind := .choice o.kind.lookup_names n
  have hmatched := spells_boolean (l := l) o.matched (level + 1) n
  have hupdated := spells_boolean (l := l) o.updated (level + 1) n
  have hfills : shape.Fills n {}
      [("fixture_path", quote document), ("snapshot_path", quote snapshot),
        ("action_type", quote o.kind.name), ("matched", l.write (level + 1) (.boolean o.matched)),
        ("updated", l.write (level + 1) (.boolean o.updated))]
      ⟨some o.document, some o.snapshot, some o.kind, some o.matched, some o.updated⟩ := by
    rw [hdocument, hsnapshot]
    exact .cons rfl rfl ((spells_path document n).bind fun _ => .pure _ _)
      (.cons rfl rfl ((spells_path snapshot n).bind fun _ => .pure _ _)
        (.cons rfl rfl (hkind.bind fun _ => .pure _ _)
          (.cons rfl rfl (hmatched.bind fun _ => .pure _ _)
            (.cons rfl rfl (hupdated.bind fun _ => .pure _ _) (.nil _)))))
  exact RecordShape.spells_decode hfills rfl level

end Outcome

namespace Summary

variable {s : Summary}

theorem mapM_toValue?_eq_some {outcomes : List Outcome} {vs : List Value} :
    outcomes.mapM Outcome.toValue? = some vs ↔
      List.Forall₂ (fun o v => o.toValue? = some v) outcomes vs :=
  forall₂_of_step List.mapM_nil fun o rest => by simp [List.mapM_cons, Option.map_eq_bind]

theorem toValue?_eq_some {v : Value} :
    s.toValue? = some v ↔ ∃ vs, List.Forall₂ (fun o v => o.toValue? = some v) s.outcomes vs ∧
      v = .object
        [("mode", .string s.mode.name), ("started_at", .string s.timing.start.text),
          ("elapsed_secs", s.timing.elapsed.toValue), ("outcomes", .array vs)] := by
  simp only [toValue?, Option.bind_eq_bind, Option.bind_eq_some_iff, mapM_toValue?_eq_some]
  constructor
  · rintro ⟨vs, hvs, hv⟩
    exact ⟨vs, hvs, (Option.some.inj hv).symm⟩
  · rintro ⟨vs, hvs, rfl⟩
    exact ⟨vs, hvs, rfl⟩

theorem exists_toValue?_iff : (∃ v, s.toValue? = some v) ↔ ∀ o ∈ s.outcomes, o.Textual := by
  simp only [toValue?_eq_some, ← Outcome.exists_toValue?_iff, ← exists_forall₂_iff]
  constructor
  · rintro ⟨_, vs, hvs, -⟩
    exact ⟨vs, hvs⟩
  · rintro ⟨vs, hvs⟩
    exact ⟨_, vs, hvs, rfl⟩

theorem forall₂_spells {outcomes : List Outcome} {vs : List Value}
    (h : List.Forall₂ (fun o v => o.toValue? = some v) outcomes vs) (level n : Nat) :
    List.Forall₂ (Spells (Outcome.shape.decode (n + 1))) (l.writeItems level vs)
      (outcomes.map Outcome.listed) := by
  induction h with
  | nil => exact .nil
  | cons ho _ ih => exact .cons (Outcome.spells_toValue? ho level n) ih

theorem exists_spells_toValue? (hclock : s.timing.Clocked) {v : Value} (h : s.toValue? = some v)
    (level n : Nat) :
    ∃ back : Summary, Spells (shape.decode (n + 3)) (l.write level v) back ∧ back.mode = s.mode ∧
      back.outcomes = s.outcomes.map Outcome.listed := by
  obtain ⟨vs, hvs, rfl⟩ := toValue?_eq_some.mp h
  obtain ⟨y, helapsed⟩ := Timing.exists_spells_elapsed (l := l) hclock (level + 1) (n + 2)
  have hmode : Spells (Mode.decoder (n + 2)) (quote s.mode.name) s.mode :=
    .choice s.mode.lookup_names (n + 2)
  have hstart := Timestamp.spells_decoder hclock.start (n + 2)
  have houtcomes : Spells (Decoder.list Outcome.shape.decode (n + 2))
      (l.write (level + 1) (.array vs)) (s.outcomes.map Outcome.listed) :=
    .list (level + 1) (forall₂_spells hvs (level + 2) n)
  have hfills : shape.Fills (n + 2) {}
      [("mode", quote s.mode.name), ("started_at", quote s.timing.start.text),
        ("elapsed_secs", l.write (level + 1) s.timing.elapsed.toValue),
        ("outcomes", l.write (level + 1) (.array vs))]
      ⟨some s.mode, some s.timing.start, some y, some (s.outcomes.map Outcome.listed)⟩ :=
    .cons rfl rfl (hmode.bind fun _ => .pure _ _)
      (.cons rfl rfl (hstart.bind fun _ => .pure _ _)
        (.cons rfl rfl (helapsed.bind fun _ => .pure _ _)
          (.cons rfl rfl (houtcomes.bind fun _ => .pure _ _) (.nil _))))
  exact ⟨_, RecordShape.spells_decode hfills rfl level, rfl, rfl⟩

/-- A printed summary is one JSON text, which names the outcomes again. -/
theorem exists_decode_prettyText (hclock : s.timing.Clocked) {v : Value} (h : s.toValue? = some v) :
    ∃ back : Summary, decode shape.decode (prettyText v ++ "\n") = .ok back ∧ back.mode = s.mode ∧
      back.outcomes = s.outcomes.map Outcome.listed := by
  obtain ⟨back, hspells, hmode, houtcomes⟩ := exists_spells_toValue? (l := .lines) hclock h 0 124
  have hblank : Blank ['\n'] := by simp [Blank, isBlank]
  refine ⟨back, readAll_eq_ok ?_ hblank, hmode, houtcomes⟩
  have htext : (prettyText v ++ "\n").toList = Layout.lines.write 0 v ++ ['\n'] := by
    rw [String.toList_append, prettyText, String.toList_ofList, pretty_eq]
    rfl
  rw [htext]
  exact hspells.reads .nil (stops_of_isBlank rfl [])

end Summary

end WorkflowCheck
