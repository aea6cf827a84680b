import WorkflowCheck.Proofs.Diff.Reconstruction
import WorkflowCheck.Proofs.Text.Lines

/-! Segments are made of whole lines. Joining neighbours of one kind is undone by taking each line of
a segment by itself, because only the last line of a text can lack its newline, and nothing of that
text comes after it. -/

namespace WorkflowCheck.Diff

variable {segments rest : List Segment} {s : Segment}

/-- Every line of every segment by itself. -/
def byLine (segments : List Segment) : List Segment :=
  segments.flatMap fun s => (Text.lines s.text).map (⟨s.kind, ·⟩)

@[simp] theorem byLine_nil : byLine [] = [] := rfl

theorem byLine_cons (s : Segment) (rest : List Segment) :
    byLine (s :: rest) = (Text.lines s.text).map (⟨s.kind, ·⟩) ++ byLine rest :=
  List.flatMap_cons

/-- The lines of the segments whose kind is chosen. -/
def linesOf (keep : SegmentKind → Bool) (segments : List Segment) : List String :=
  (segments.filter fun s => keep s.kind).flatMap fun s => Text.lines s.text

theorem linesOf_eq_chosen (keep : SegmentKind → Bool) (segments : List Segment) :
    linesOf keep segments = chosen keep (byLine segments) := by
  induction segments with
  | nil => rfl
  | cons s rest ih =>
    rw [byLine_cons, chosen_append, chosen_map, ← ih]
    cases h : keep s.kind <;> simp [linesOf, h]

/-- Each segment is one line, and those of either text are lines as splitting gives them. -/
structure OfLines (segments : List Segment) : Prop where
  old : Text.Lined (chosen SegmentKind.inOld segments)
  new : Text.Lined (chosen SegmentKind.inNew segments)

theorem chosen_cons_of_pos {keep : SegmentKind → Bool} (h : keep s.kind = true)
    (rest : List Segment) : chosen keep (s :: rest) = s.text :: chosen keep rest := by
  rw [chosen_cons, if_pos h]

theorem lined_chosen_tail {keep : SegmentKind → Bool} (h : Text.Lined (chosen keep (s :: rest))) :
    Text.Lined (chosen keep rest) := by
  rw [chosen_cons] at h
  split at h
  · exact h.tail
  · exact h

/-- A line that is followed by another one of its text ends in a newline. -/
theorem ended_of_side {side : SegmentKind → Bool} (h : Text.Lined (chosen side (s :: rest)))
    (hs : side s.kind = true) {t : Segment} (ht : t ∈ rest) (hside : side t.kind = true) :
    Text.Ended s.text := by
  rw [chosen_cons_of_pos hs] at h
  apply h.ended_head
  have hmem : t.text ∈ chosen side rest := List.mem_map_of_mem (List.mem_filter.mpr ⟨ht, hside⟩)
  exact List.ne_nil_of_mem hmem

namespace OfLines

theorem tail (h : OfLines (s :: rest)) : OfLines rest :=
  ⟨lined_chosen_tail h.old, lined_chosen_tail h.new⟩

theorem of_append {front : List Segment} (h : OfLines (front ++ segments)) : OfLines segments := by
  induction front with
  | nil => exact h
  | cons s front ih => exact ih h.tail

/-- Every kind belongs to one of the texts, whose lines it shares. -/
theorem exists_side (h : OfLines segments) (kind : SegmentKind) : ∃ side : SegmentKind → Bool,
    side kind = true ∧ Text.Lined (chosen side segments) := by
  cases kind with
  | common => exact ⟨_, rfl, h.old⟩
  | removed => exact ⟨_, rfl, h.old⟩
  | added => exact ⟨_, rfl, h.new⟩

theorem lines_head (h : OfLines (s :: rest)) : Text.lines s.text = [s.text] := by
  obtain ⟨side, hside, hlined⟩ := h.exists_side s.kind
  rw [chosen_cons_of_pos hside] at hlined
  exact hlined.single s.text List.mem_cons_self

theorem lines_of_mem (h : OfLines segments) (hs : s ∈ segments) : Text.lines s.text = [s.text] := by
  obtain ⟨front, rest, rfl⟩ := List.append_of_mem hs
  exact h.of_append.lines_head

/-- A line that is followed by another one of its kind ends in a newline. -/
theorem ended_head (h : OfLines (s :: rest)) {t : Segment} (ht : t ∈ rest)
    (hkind : t.kind = s.kind) : Text.Ended s.text := by
  obtain ⟨side, hside, hlined⟩ := h.exists_side s.kind
  exact ended_of_side hlined hside ht (hkind ▸ hside)

end OfLines

theorem head?_kind_merge (segments : List Segment) :
    (merge segments).head?.map (·.kind) = segments.head?.map (·.kind) := by
  cases segments with
  | nil => rfl
  | cons s rest =>
    rw [merge]
    split
    · rfl
    · split <;> rfl

/-- A segment in front is joined with the next one or stands by itself. -/
theorem merge_cons_cases (s : Segment) (rest : List Segment) :
    rest = [] ∧ merge (s :: rest) = [s] ∨
      ∃ u rest' t ts, rest = u :: rest' ∧ merge rest = t :: ts ∧ t.kind = u.kind ∧
        (s.kind = t.kind ∧ merge (s :: rest) = ⟨s.kind, s.text ++ t.text⟩ :: ts ∨
          s.kind ≠ t.kind ∧ merge (s :: rest) = s :: t :: ts) := by
  cases rest with
  | nil => exact .inl ⟨rfl, rfl⟩
  | cons u rest' =>
    have hhead := head?_kind_merge (u :: rest')
    rw [merge]
    cases hm : merge (u :: rest') with
    | nil => simp [hm] at hhead
    | cons t ts =>
      have htu : t.kind = u.kind := by simpa [hm] using hhead
      refine .inr ⟨u, rest', t, ts, rfl, rfl, htu, ?_⟩
      by_cases hk : s.kind = t.kind
      · exact .inl ⟨hk, if_pos hk⟩
      · exact .inr ⟨hk, if_neg hk⟩

theorem byLine_merge (h : OfLines segments) : byLine (merge segments) = segments := by
  induction segments with
  | nil => rfl
  | cons s rest ih =>
    have hrest := ih h.tail
    rcases merge_cons_cases s rest with ⟨rfl, hm⟩ |
      ⟨u, rest', t, ts, rfl, ht, htu, ⟨hk, hm⟩ | ⟨-, hm⟩⟩
    · rw [hm, byLine_cons, h.lines_head]
      rfl
    · have hended : Text.Ended s.text := h.ended_head List.mem_cons_self (htu ▸ hk.symm)
      rw [ht, byLine_cons, ← hk] at hrest
      rw [hm, byLine_cons, Text.lines_append hended, h.lines_head, List.map_append,
        List.append_assoc, hrest]
      rfl
    · rw [hm, ← ht, byLine_cons, h.lines_head, hrest]
      rfl

variable (old new : String)

theorem ofLines_lineSegments : OfLines (lineSegments (Text.lines old) (Text.lines new)) := by
  constructor
  case old =>
    rw [chosen_inOld_lineSegments]
    exact Text.lined_lines old
  case new =>
    rw [chosen_inNew_lineSegments]
    exact Text.lined_lines new

theorem byLine_compare :
    byLine (compare old new) = lineSegments (Text.lines old) (Text.lines new) :=
  byLine_merge (ofLines_lineSegments old new)

theorem linesOf_inOld_compare : linesOf SegmentKind.inOld (compare old new) = Text.lines old := by
  rw [linesOf_eq_chosen, byLine_compare, chosen_inOld_lineSegments]

theorem linesOf_inNew_compare : linesOf SegmentKind.inNew (compare old new) = Text.lines new := by
  rw [linesOf_eq_chosen, byLine_compare, chosen_inNew_lineSegments]

end WorkflowCheck.Diff
