import Mathlib.Data.List.Basic
import WorkflowCheck.Report.Stream

/-! What streams have taken of a report. The prints before the first one that does not fit are
taken whole, and from then on at least one byte is missing: whether all of some prints went
through can be read off the streams at the end. -/

namespace WorkflowCheck.Report

namespace Stream

/-- No stream has taken more than it may. -/
def Within (s : Stream) : Prop := ∀ limit, s.limit = some limit → s.written.length ≤ limit

variable {s : Stream} {bytes : Bytes}

theorem taken_of_fits (h : s.fits bytes = true) : s.taken bytes = bytes := by
  unfold fits at h
  unfold taken
  cases hlimit : s.limit with
  | none => rfl
  | some limit =>
    rw [hlimit, decide_eq_true_eq] at h
    exact List.take_of_length_le (by omega)

theorem written_write_of_fits (h : s.fits bytes = true) :
    (s.write bytes).written = s.written ++ bytes := by
  rw [write, taken_of_fits h]

theorem Within.write (h : s.Within) (bytes : Bytes) : (s.write bytes).Within := by
  intro limit hlimit
  have hlimit' : s.limit = some limit := hlimit
  have hold := h limit hlimit'
  simp only [Stream.write, taken, hlimit', List.length_append, List.length_take]
  omega

theorem length_write_lt (hw : s.Within) (h : s.fits bytes = false) :
    (s.write bytes).written.length < s.written.length + bytes.length := by
  unfold fits at h
  cases hlimit : s.limit with
  | none => simp [hlimit] at h
  | some limit =>
    have hold := hw limit hlimit
    rw [hlimit, decide_eq_false_iff_not] at h
    simp only [write, taken, hlimit, List.length_append, List.length_take]
    omega

end Stream

/-- The bytes of some prints on one channel. -/
def bytesOn (channel : Channel) (prints : List Print) : Bytes :=
  prints.flatMap fun p => if p.channel = channel then Text.encode p.text else []

theorem bytesOn_singleton (channel : Channel) (p : Print) :
    bytesOn channel [p] = if p.channel = channel then Text.encode p.text else [] :=
  List.append_nil _

theorem bytesOn_cons (channel : Channel) (p : Print) (rest : List Print) :
    bytesOn channel (p :: rest) = bytesOn channel [p] ++ bytesOn channel rest := by
  rw [bytesOn_singleton]
  rfl

namespace Streams

def Within (s : Streams) : Prop := ∀ channel, (s.stream channel).Within

/-- All of the prints have gone through. -/
def Holds (s : Streams) (prints : List Print) : Prop :=
  ∀ channel, bytesOn channel prints <+: (s.stream channel).written

theorem within_ofLimits (out err : Option Nat) : (ofLimits out err).Within := by
  intro channel limit _
  cases channel <;> exact Nat.zero_le limit

theorem written_ofLimits (out err : Option Nat) (channel : Channel) :
    ((ofLimits out err).stream channel).written = [] := by
  cases channel <;> rfl

variable {s : Streams} {p : Print}

theorem stream_print (channel : Channel) : (s.print p).stream channel =
    if p.channel = channel then (s.stream channel).write (Text.encode p.text)
    else s.stream channel := by
  obtain ⟨c, text⟩ := p
  cases c <;> cases channel <;> rfl

theorem Within.print (h : s.Within) (p : Print) : (s.print p).Within := by
  intro channel
  rw [stream_print]
  split
  · exact (h channel).write _
  · exact h channel

theorem written_print_of_fits (h : s.fits p = true) (channel : Channel) :
    ((s.print p).stream channel).written = (s.stream channel).written ++ bytesOn channel [p] := by
  rw [stream_print, bytesOn_singleton]
  split
  · next hc =>
    subst hc
    exact Stream.written_write_of_fits h
  · exact (List.append_nil _).symm

theorem written_prefix_print (channel : Channel) :
    (s.stream channel).written <+: ((s.print p).stream channel).written := by
  rw [stream_print]
  split
  · exact List.prefix_append _ _
  · exact List.prefix_refl _

theorem printAll_append (s : Streams) (a b : List Print) :
    s.printAll (a ++ b) =
      if (s.printAll a).2 = none then (s.printAll a).1.printAll b else s.printAll a := by
  induction a generalizing s with
  | nil => rfl
  | cons p rest ih =>
    rw [List.cons_append, printAll, printAll]
    split
    · exact ih _
    · rfl

theorem written_printAll {l : List Print} (h : (s.printAll l).2 = none) (channel : Channel) :
    ((s.printAll l).1.stream channel).written = (s.stream channel).written ++ bytesOn channel l := by
  induction l generalizing s with
  | nil => simp [printAll, bytesOn]
  | cons p rest ih =>
    rw [printAll] at h ⊢
    split
    · next hp =>
      rw [if_pos hp] at h
      rw [ih h, written_print_of_fits hp, List.append_assoc, ← bytesOn_cons]
    · next hp => simp [hp] at h

theorem written_prefix_printAll (s : Streams) (l : List Print) (channel : Channel) :
    (s.stream channel).written <+: ((s.printAll l).1.stream channel).written := by
  induction l generalizing s with
  | nil => exact List.prefix_refl _
  | cons p rest ih =>
    rw [printAll]
    split
    · exact (written_prefix_print channel).trans (ih _)
    · exact written_prefix_print channel

theorem exists_length_lt {l : List Print} (hw : s.Within) (h : (s.printAll l).2 ≠ none) :
    ∃ channel, ((s.printAll l).1.stream channel).written.length <
      (s.stream channel).written.length + (bytesOn channel l).length := by
  induction l generalizing s with
  | nil => exact absurd rfl h
  | cons p rest ih =>
    rw [printAll] at h ⊢
    split
    · next hp =>
      rw [if_pos hp] at h
      obtain ⟨channel, hlt⟩ := ih (hw.print p) h
      refine ⟨channel, ?_⟩
      rw [written_print_of_fits hp, List.length_append] at hlt
      rw [bytesOn_cons, List.length_append]
      omega
    · next hp =>
      -- This print leaves its stream short, and nothing more is printed to make up for it.
      refine ⟨p.channel, ?_⟩
      have hlt := Stream.length_write_lt (hw p.channel) (Bool.not_eq_true _ ▸ hp)
      rw [stream_print, if_pos rfl, bytesOn_cons, bytesOn_singleton, if_pos rfl, List.length_append]
      omega

/-- Whether the first of some prints all fit is seen at the end of all of them. -/
theorem printAll_eq_none_iff (hw : s.Within) (hempty : ∀ channel, (s.stream channel).written = [])
    (a b : List Print) : (s.printAll a).2 = none ↔ (s.printAll (a ++ b)).1.Holds a := by
  constructor
  · intro h channel
    have ha := written_printAll h channel
    rw [hempty, List.nil_append] at ha
    rw [printAll_append, if_pos h, ← ha]
    exact written_prefix_printAll _ _ _
  · intro h
    by_contra hne
    obtain ⟨channel, hlt⟩ := exists_length_lt hw hne
    have hle := (h channel).length_le
    rw [printAll_append, if_neg hne] at hle
    rw [hempty, List.length_nil, Nat.zero_add] at hlt
    omega

end Streams

end WorkflowCheck.Report
