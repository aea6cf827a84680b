import WorkflowCheck.Proofs.Diff.NormalForm
import WorkflowCheck.Report.Difference

/-! A comparison rendered without colours, and read again. Its marks give both texts back as long
as each of them starts a line. One mark does not: that of a line added after the last old line,
where that line is removed and lacks its newline. The two are then read as one removed line. -/

namespace WorkflowCheck.Report

open Diff

/-- A line without its mark, as a segment of the kind that the mark stands for. -/
def unmark (line : String) : Option Segment :=
  match line.toList with
  | ' ' :: cs => some ⟨.common, String.ofList cs⟩
  | '+' :: cs => some ⟨.added, String.ofList cs⟩
  | '-' :: cs => some ⟨.removed, String.ofList cs⟩
  | _ => none

/-- The text that the lines of a rendering spell whose marks are those of one side. -/
def readBack (side : SegmentKind → Bool) (rendering : String) : String :=
  String.join (chosen side ((Text.lines rendering).filterMap unmark))

def markLine (s : Segment) : String := mark s.kind ++ s.text

theorem render_none (segments : List Segment) :
    render .none segments = String.join ((byLine segments).map markLine) := by
  induction segments with
  | nil => rfl
  | cons s rest ih =>
    have hhead : renderSegment .none s =
        String.join (((Text.lines s.text).map (⟨s.kind, ·⟩)).map markLine) := by
      rw [List.map_map]
      rfl
    rw [byLine_cons, List.map_append, String.join_append, ← hhead, ← ih]
    exact String.join_cons

theorem unmark_markLine (s : Segment) : unmark (markLine s) = some s := by
  obtain ⟨kind, text⟩ := s
  cases kind <;> simp [unmark, markLine, mark]

theorem filterMap_unmark (segments : List Segment) :
    (segments.map markLine).filterMap unmark = segments := by
  rw [List.filterMap_map]
  exact (List.filterMap_congr fun s _ => unmark_markLine s).trans List.filterMap_some

theorem newline_not_mem_mark (kind : SegmentKind) : '\n' ∉ (mark kind).toList := by
  cases kind <;> simp [mark]

theorem lines_markLine {s : Segment} (h : Text.lines s.text = [s.text]) :
    Text.lines (markLine s) = [markLine s] :=
  Text.lines_append_of_not_mem (newline_not_mem_mark s.kind) h

theorem ended_markLine {s : Segment} (h : Text.Ended s.text) : Text.Ended (markLine s) := by
  rw [Text.Ended] at h
  rw [Text.Ended, markLine, String.toList_append, List.getLast?_append, h]
  rfl

/-- Every mark of a comparison starts a line: only the last line of all may lack its newline. -/
def MarksApart (old new : String) : Prop :=
  ∀ s ∈ (byLine (compare old new)).dropLast, Text.Ended s.text

variable {segments before after : List Segment} {s : Segment} {old new : String}

theorem lined_markLines (h : OfLines segments)
    (hended : ∀ s ∈ segments.dropLast, Text.Ended s.text) :
    Text.Lined (segments.map markLine) := by
  constructor
  case single =>
    intro line hline
    obtain ⟨s, hs, rfl⟩ := List.mem_map.mp hline
    exact lines_markLine (h.lines_of_mem hs)
  case ended =>
    intro line hline
    rw [← List.map_dropLast] at hline
    obtain ⟨s, hs, rfl⟩ := List.mem_map.mp hline
    exact ended_markLine (hended s hs)

theorem MarksApart.readBack (h : MarksApart old new) (side : SegmentKind → Bool) :
    readBack side (render .none (compare old new)) =
      String.join (chosen side (lineSegments (Text.lines old) (Text.lines new))) := by
  rw [MarksApart, byLine_compare] at h
  have hlined := lined_markLines (ofLines_lineSegments old new) h
  rw [Report.readBack, render_none, byLine_compare, hlined.lines_join, filterMap_unmark]

theorem MarksApart.readBack_inOld (h : MarksApart old new) :
    Report.readBack SegmentKind.inOld (render .none (compare old new)) = old := by
  rw [h.readBack, chosen_inOld_lineSegments, join_lines]

theorem MarksApart.readBack_inNew (h : MarksApart old new) :
    Report.readBack SegmentKind.inNew (render .none (compare old new)) = new := by
  rw [h.readBack, chosen_inNew_lineSegments, join_lines]

/-- A line without its newline that is not the last one of a comparison is the last one of the old
text, and all that follows it is added. -/
theorem removed_of_not_ended (hlines : OfLines (before ++ s :: after))
    (hordered : Ordered (before ++ s :: after)) (hafter : after ≠ []) (hs : ¬Text.Ended s.text) :
    s.kind = .removed ∧ ∀ t ∈ after, t.kind = .added := by
  have hsuffix : OfLines (s :: after) := hlines.of_append
  have hold (hin : s.kind.inOld = true) (t) (ht : t ∈ after) : t.kind = .added := by
    have hout : ¬t.kind.inOld = true := fun hin' => hs (ended_of_side hsuffix.old hin ht hin')
    cases hk : t.kind <;> simp_all [SegmentKind.inOld]
  have hnew (hin : s.kind.inNew = true) (t) (ht : t ∈ after) : t.kind = .removed := by
    have hout : ¬t.kind.inNew = true := fun hin' => hs (ended_of_side hsuffix.new hin ht hin')
    cases hk : t.kind <;> simp_all [SegmentKind.inNew]
  obtain ⟨t, rest, rfl⟩ := List.exists_cons_of_ne_nil hafter
  cases hk : s.kind with
  | removed => exact ⟨rfl, hold (hk ▸ rfl)⟩
  | common =>
    have hadded := hold (hk ▸ rfl) t List.mem_cons_self
    have hremoved := hnew (hk ▸ rfl) t List.mem_cons_self
    exact absurd (hadded.symm.trans hremoved) (by decide)
  | added =>
    have hremoved := hnew (hk ▸ rfl) t List.mem_cons_self
    have hpair := (List.isChain_cons_cons.mp hordered.right_of_append).1
    exact absurd ⟨hk, hremoved⟩ hpair

/-- What follows an old line that lacks its newline is glued to it. -/
theorem exists_lines_glued {l : String} (hlines : OfLines (before ++ ⟨.removed, l⟩ :: after))
    (hbefore : ∀ s ∈ before, Text.Ended s.text) (hl : ¬Text.Ended l) (hafter : after ≠ []) :
    ∃ b bs, b ≠ "" ∧
      Text.lines (String.join ((before ++ ⟨.removed, l⟩ :: after).map markLine)) =
        before.map markLine ++ markLine ⟨.removed, l ++ b⟩ :: bs := by
  have hne : String.join (after.map markLine) ≠ "" := by
    obtain ⟨t, rest, rfl⟩ := List.exists_cons_of_ne_nil hafter
    cases hk : t.kind <;> simp [markLine, mark, hk]
  obtain ⟨b, bs, hb⟩ := List.exists_cons_of_ne_nil (mt Text.lines_eq_nil.mp hne)
  have hmem : '\n' ∉ (markLine ⟨.removed, l⟩).toList := by
    have hsingle : Text.lines l = [l] := hlines.of_append.lines_head
    rw [markLine, String.toList_append, List.mem_append, not_or]
    exact ⟨newline_not_mem_mark _, fun h => hl (Text.ended_of_mem hsingle h)⟩
  have hmarked : ∀ line ∈ before.map markLine, Text.lines line = [line] ∧ Text.Ended line := by
    intro line hline
    obtain ⟨s, hs, rfl⟩ := List.mem_map.mp hline
    have hsingle := hlines.lines_of_mem (List.mem_append_left _ hs)
    exact ⟨lines_markLine hsingle, ended_markLine (hbefore s hs)⟩
  refine ⟨b, bs, Text.ne_empty_of_mem_lines (hb ▸ List.mem_cons_self), ?_⟩
  rw [List.map_append, List.map_cons, String.join_append, String.join_cons,
    Text.lines_join_append hmarked, Text.lines_append_of_not_mem hmem hb, markLine, markLine,
    String.append_assoc]

/-- So it is read as part of the old text. -/
theorem length_lt_length_readBack {l : String}
    (hlines : OfLines (before ++ ⟨.removed, l⟩ :: after))
    (hbefore : ∀ s ∈ before, Text.Ended s.text) (hl : ¬Text.Ended l) (hafter : after ≠ []) :
    (String.join (chosen SegmentKind.inOld before) ++ l).length <
      (readBack SegmentKind.inOld
        (String.join ((before ++ ⟨.removed, l⟩ :: after).map markLine))).length := by
  obtain ⟨b, bs, hb, hread⟩ := exists_lines_glued hlines hbefore hl hafter
  have hlength : 0 < b.length := Nat.pos_of_ne_zero fun h => hb (String.length_eq_zero_iff.mp h)
  rw [readBack, hread, List.filterMap_append, filterMap_unmark,
    List.filterMap_cons_some (unmark_markLine _), chosen_append, String.join_append,
    chosen_cons_of_pos rfl, String.join_cons]
  simp only [String.length_append]
  omega

theorem exists_append_of_mem_dropLast {segments : List Segment} (h : s ∈ segments.dropLast) :
    ∃ before after, segments = before ++ s :: after ∧ after ≠ [] := by
  obtain ⟨before, middle, heq⟩ := List.append_of_mem h
  have hne : segments ≠ [] := by
    rintro rfl
    simp at h
  refine ⟨before, middle ++ [segments.getLast hne], ?_, by simp⟩
  rw [← List.cons_append, ← List.append_assoc, ← heq, List.dropLast_append_getLast]

/-- Where marks are not apart, the old text ends in a removed line without its newline, and added
lines follow. -/
theorem exists_glued (h : ¬MarksApart old new) : ∃ before l after,
    lineSegments (Text.lines old) (Text.lines new) = before ++ ⟨.removed, l⟩ :: after ∧
      (∀ s ∈ before, Text.Ended s.text) ∧ ¬Text.Ended l ∧ after ≠ [] ∧
      ∀ s ∈ after, s.kind = .added := by
  have hlines := ofLines_lineSegments old new
  have hordered := ordered_lineSegments (Text.lines old) (Text.lines new)
  simp only [MarksApart, byLine_compare, not_forall] at h
  obtain ⟨s, hs, hended⟩ := h
  obtain ⟨before, after, heq, hafter⟩ := exists_append_of_mem_dropLast hs
  rw [heq] at hlines hordered
  obtain ⟨hkind, hadded⟩ := removed_of_not_ended hlines hordered hafter hended
  refine ⟨before, s.text, after, ?_, fun t ht => ?_, hended, hafter, hadded⟩
  · rw [heq, ← hkind]
  · -- Otherwise all that follows the line in front would be added, this one too.
    by_contra hnot
    obtain ⟨front, middle, rfl⟩ := List.append_of_mem ht
    rw [List.append_assoc, List.cons_append] at hlines hordered
    have hs' := (removed_of_not_ended hlines hordered (by simp) hnot).2 s (by simp)
    exact absurd (hkind.symm.trans hs') (by decide)

theorem join_inOld_append_glued {l : String}
    (heq : lineSegments (Text.lines old) (Text.lines new) = before ++ ⟨.removed, l⟩ :: after)
    (hadded : ∀ s ∈ after, s.kind = .added) :
    String.join (chosen SegmentKind.inOld before) ++ l = old := by
  have hold := chosen_inOld_lineSegments (Text.lines old) (Text.lines new)
  have hnone : chosen SegmentKind.inOld after = [] := by
    rw [chosen, List.map_eq_nil_iff, List.filter_eq_nil_iff]
    intro s hs
    rw [hadded s hs]
    exact Bool.false_ne_true
  rw [heq, chosen_append, chosen_cons_of_pos rfl, hnone] at hold
  rw [← join_lines old, ← hold, String.join_append, String.join_cons, String.join_nil,
    String.append_empty]

theorem readBack_inOld_ne (h : ¬MarksApart old new) :
    readBack SegmentKind.inOld (render .none (compare old new)) ≠ old := by
  obtain ⟨before, l, after, heq, hbefore, hl, hafter, hadded⟩ := exists_glued h
  have hlt := length_lt_length_readBack (heq ▸ ofLines_lineSegments old new) hbefore hl hafter
  rw [← heq, ← byLine_compare, ← render_none, join_inOld_append_glued heq hadded] at hlt
  intro hback
  rw [hback] at hlt
  exact Nat.lt_irrefl _ hlt

/-- Nothing is glued to an old text that ends in a newline. -/
theorem marksApart_of_ended (h : old = "" ∨ Text.Ended old) : MarksApart old new := by
  by_contra hnot
  obtain ⟨before, l, after, heq, -, hl, -, hadded⟩ := exists_glued hnot
  have hlines : OfLines (before ++ ⟨.removed, l⟩ :: after) := heq ▸ ofLines_lineSegments old new
  have hne : l ≠ "" := hlines.text_ne_empty ⟨.removed, l⟩ (by simp)
  rw [← join_inOld_append_glued heq hadded] at h
  rcases h with hempty | hended
  · exact hne (String.append_eq_empty_iff.mp hempty).2
  · exact hl (Text.ended_of_append hended hne)

/-- The rendering gives both texts back exactly if its marks are apart, as they are wherever the
old text ends in a newline. No other texts of which that holds have the same rendering. -/
theorem plain_difference_reads_back (old new : String) :
    (MarksApart old new ↔
      readBack SegmentKind.inOld (render .none (compare old new)) = old ∧
        readBack SegmentKind.inNew (render .none (compare old new)) = new) ∧
    (old = "" ∨ Text.Ended old → MarksApart old new) ∧
    ∀ old' new', MarksApart old new → MarksApart old' new' →
      render .none (compare old new) = render .none (compare old' new') →
        old = old' ∧ new = new' := by
  refine ⟨⟨fun h => ⟨h.readBack_inOld, h.readBack_inNew⟩, fun h => ?_⟩, marksApart_of_ended,
    fun old' new' h h' heq => ⟨?_, ?_⟩⟩
  · by_contra hnot
    exact readBack_inOld_ne hnot h.1
  · rw [← h.readBack_inOld, heq, h'.readBack_inOld]
  · rw [← h.readBack_inNew, heq, h'.readBack_inNew]

/-- A difference that has all three kinds of lines. -/
theorem changed_list_reads_back :
    let rendering := render .none (compare "[\n1\n]\n" "[\n2\n]")
    Text.Ended "[\n1\n]\n" ∧ readBack SegmentKind.inOld rendering = "[\n1\n]\n" ∧
      readBack SegmentKind.inNew rendering = "[\n2\n]" := by
  have hended : Text.Ended "[\n1\n]\n" := by decide
  obtain ⟨hread, hapart, -⟩ := plain_difference_reads_back "[\n1\n]\n" "[\n2\n]"
  exact ⟨hended, hread.mp (hapart (.inr hended))⟩

/-- A line that gains a newline and the removal of one longer line are rendered alike. -/
theorem glued_lines_ambiguous : ¬∀ old new old' new' : String,
    render .none (compare old new) = render .none (compare old' new') →
      old = old' ∧ new = new' := by
  intro h
  have hchanged : lineSegments (Text.lines "\x7b\x7d") (Text.lines "\x7b\x7d\n") =
      [⟨.removed, "\x7b\x7d"⟩, ⟨.added, "\x7b\x7d\n"⟩] :=
    lineSegments_singleton (by decide)
  have hremoved : lineSegments (Text.lines "\x7b\x7d+\x7b\x7d\n") (Text.lines "") =
      [⟨.removed, "\x7b\x7d+\x7b\x7d\n"⟩] := lineSegments_nil_right _
  have heq : render .none (compare "\x7b\x7d" "\x7b\x7d\n") =
      render .none (compare "\x7b\x7d+\x7b\x7d\n" "") := by
    rw [render_none, render_none, byLine_compare, byLine_compare, hchanged, hremoved]
    decide
  have hsame : "\x7b\x7d" = "\x7b\x7d+\x7b\x7d\n" := (h _ _ _ _ heq).1
  exact absurd hsame (by decide)

end WorkflowCheck.Report
