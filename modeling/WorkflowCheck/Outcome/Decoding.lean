import WorkflowCheck.Outcome
import WorkflowCheck.Snapshot.Decoding
import WorkflowCheck.Timestamp.Reader

/-! Outcomes and summaries read back from JSON text. The text of a snapshot is no part of an
outcome's JSON form. -/

namespace WorkflowCheck

open Json

def Mode.names : List (String × Mode) := [(Mode.check.name, .check), (Mode.update.name, .update)]

def Mode.decoder : Decoder Mode := Decoder.choice Mode.names

def pathDecoder : Decoder Bytes := Decoder.text "path string" fun s => .ok (Text.encode s)

def Timestamp.decoder : Decoder Timestamp :=
  Decoder.text "an RFC 3339 formatted date and time string" fun s =>
    (Timestamp.parse s).mapError fun fault => .badText fault.message

namespace Outcome

structure Draft where
  document : Option Bytes := none
  snapshot : Option Bytes := none
  kind : Option Kind := none
  matched : Option Bool := none
  updated : Option Bool := none

def Draft.finish (d : Draft) : Option Outcome := do
  return ⟨← d.document, ← d.snapshot, ← d.kind, ← d.matched, d.updated.getD false, ""⟩

def shape : RecordShape Draft Outcome where
  name := "RunOutcome"
  empty := {}
  fields :=
    [⟨"fixture_path", true, (·.document.isSome),
        fun d depth => return { d with document := some (← pathDecoder depth) }⟩,
      ⟨"snapshot_path", true, (·.snapshot.isSome),
        fun d depth => return { d with snapshot := some (← pathDecoder depth) }⟩,
      ⟨"action_type", true, (·.kind.isSome),
        fun d depth => return { d with kind := some (← Kind.decoder depth) }⟩,
      ⟨"matched", true, (·.matched.isSome),
        fun d depth => return { d with matched := some (← Decoder.boolean depth) }⟩,
      ⟨"updated", false, (·.updated.isSome),
        fun d depth => return { d with updated := some (← Decoder.boolean depth) }⟩]
  finish := Draft.finish

end Outcome

namespace Summary

structure Draft where
  mode : Option Mode := none
  start : Option Timestamp := none
  elapsed : Option Decimal.Double := none
  outcomes : Option (List Outcome) := none

def Draft.finish (d : Draft) : Option Summary := do
  return ⟨← d.mode, ⟨← d.start, ← d.elapsed⟩, ← d.outcomes⟩

def shape : RecordShape Draft Summary where
  name := "RunSummary"
  empty := {}
  fields :=
    [⟨"mode", true, (·.mode.isSome),
        fun d depth => return { d with mode := some (← Mode.decoder depth) }⟩,
      ⟨"started_at", true, (·.start.isSome),
        fun d depth => return { d with start := some (← Timestamp.decoder depth) }⟩,
      ⟨"elapsed_secs", true, (·.elapsed.isSome),
        fun d depth => return { d with elapsed := some (← Decoder.double depth) }⟩,
      ⟨"outcomes", true, (·.outcomes.isSome),
        fun d depth =>
          return { d with outcomes := some (← Decoder.list Outcome.shape.decode depth) }⟩]
  finish := Draft.finish

end Summary

end WorkflowCheck
