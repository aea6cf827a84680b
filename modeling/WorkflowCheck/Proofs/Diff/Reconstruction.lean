import WorkflowCheck.Diff

/-! The two texts of a comparison are read back from its segments. Both sides are the same view
of a segment list, taken through a different choice of kinds, so each fact is shown once for
every choice that the fact holds of. -/

namespace WorkflowCheck.Diff

/-- The texts of the segments whose kind is chosen. -/
def chosen (keep : SegmentKind → Bool) (segments : List Segment) : List String :=
  (segments.filter fun s => keep s.kind).map (·.text)

theorem oldText_eq_join (segments : List Segment) :
    oldText segments = String.join (chosen SegmentKind.inOld segments) := rfl

theorem newText_eq_join (segments : List Segment) :
    newText segments = String.join (chosen SegmentKind.inNew segments) := rfl

@[simp] theorem chosen_nil (keep : SegmentKind → Bool) : chosen keep [] = [] := rfl

theorem chosen_cons (keep : SegmentKind → Bool) (s : Segment) (rest : List Segment) :
    chosen keep (s :: rest) = if keep s.kind then s.text :: chosen keep rest else chosen keep rest := by
  cases h : keep s.kind <;> simp [chosen, h]

@[simp] theorem chosen_append (keep : SegmentKind → Bool) (a b : List Segment) :
    chosen keep (a ++ b) = chosen keep a ++ chosen keep b := by
  simp [chosen]

@[simp] theorem chosen_map (keep : SegmentKind → Bool) (kind : SegmentKind) (lines : List String) :
    chosen keep (lines.map (⟨kind, ·⟩)) = if keep kind then lines else [] := by
  induction lines with
  | nil => simp
  | cons l ls ih =>
    rw [List.map_cons, chosen_cons, ih]
    cases keep kind <;> rfl

/-- Joining neighbours moves the borders between segments and no character. -/
theorem join_chosen_merge (keep : SegmentKind → Bool) (segments : List Segment) :
    String.join (chosen keep (merge segments)) = String.join (chosen keep segments) := by
  induction segments with
  | nil => rfl
  | cons s rest ih =>
    rw [chosen_cons, merge]
    cases hm : merge rest with
    | nil =>
      have hr : String.join (chosen keep rest) = "" := by rw [← ih, hm]; rfl
      cases hk : keep s.kind <;> simp [chosen_cons, hk, hr]
    | cons t ts =>
      rw [hm, chosen_cons] at ih
      dsimp only
      by_cases hst : s.kind = t.kind
      · rw [if_pos hst, chosen_cons, hst]
        cases hk : keep t.kind <;> simp_all [String.append_assoc]
      · rw [if_neg hst, chosen_cons, chosen_cons]
        cases hk : keep s.kind <;> simp_all

theorem sharedFront_le_left (a b : List String) : sharedFront a b ≤ a.length := by
  fun_induction sharedFront a b <;> simp_all

theorem sharedFront_le_right (a b : List String) : sharedFront a b ≤ b.length := by
  fun_induction sharedFront a b <;> simp_all

theorem take_sharedFront (a b : List String) :
    a.take (sharedFront a b) = b.take (sharedFront a b) := by
  fun_induction sharedFront a b <;> simp_all

/-- How many lines two lists share at the back, beyond those that they share at the front. -/
def sharedBack (old new : List String) : Nat :=
  sharedFront (old.drop (sharedFront old new)).reverse (new.drop (sharedFront old new)).reverse

theorem sharedFront_add_sharedBack_le (old new : List String) :
    sharedFront old new + sharedBack old new ≤ old.length ∧
      sharedFront old new + sharedBack old new ≤ new.length := by
  have hl := sharedFront_le_left (old.drop (sharedFront old new)).reverse
    (new.drop (sharedFront old new)).reverse
  have hr := sharedFront_le_right (old.drop (sharedFront old new)).reverse
    (new.drop (sharedFront old new)).reverse
  simp only [List.length_reverse, List.length_drop] at hl hr
  have h := sharedFront_le_left old new
  have h' := sharedFront_le_right old new
  unfold sharedBack
  omega

theorem drop_sharedBack (old new : List String) :
    old.drop (old.length - sharedBack old new) = new.drop (new.length - sharedBack old new) := by
  have h := congrArg List.reverse (take_sharedFront (old.drop (sharedFront old new)).reverse
    (new.drop (sharedFront old new)).reverse)
  change List.reverse (List.take (sharedBack old new) _) =
    List.reverse (List.take (sharedBack old new) _) at h
  simp only [List.reverse_take, List.reverse_reverse, List.length_reverse, List.length_drop,
    List.drop_drop] at h
  have hle := sharedFront_add_sharedBack_le old new
  have ho : sharedFront old new + (old.length - sharedFront old new - sharedBack old new) =
      old.length - sharedBack old new := by omega
  have hn : sharedFront old new + (new.length - sharedFront old new - sharedBack old new) =
      new.length - sharedBack old new := by omega
  rwa [ho, hn] at h

theorem take_append_middle_append_drop {lines : List String} {front back : Nat}
    (h : front + back ≤ lines.length) :
    lines.take front ++ (lines.drop front).take (lines.length - front - back) ++
      lines.drop (lines.length - back) = lines := by
  have hd : lines.drop (lines.length - back) =
      (lines.drop front).drop (lines.length - front - back) := by
    rw [List.drop_drop]
    congr 1
    omega
  rw [hd, List.append_assoc, List.take_append_drop, List.take_append_drop]

variable {m n : Nat} (t : Table m n)

theorem chosen_inOld_walk (i j : Nat) (a b : List String) (hi : i + a.length = m)
    (hj : j + b.length = n) : chosen SegmentKind.inOld (walk t i j a b hi hj) = a := by
  fun_induction walk t i j a b hi hj <;> simp_all [chosen_cons, SegmentKind.inOld]

theorem chosen_inNew_walk (i j : Nat) (a b : List String) (hi : i + a.length = m)
    (hj : j + b.length = n) : chosen SegmentKind.inNew (walk t i j a b hi hj) = b := by
  fun_induction walk t i j a b hi hj <;> simp_all [chosen_cons, SegmentKind.inNew]

theorem chosen_inOld_lineSegments (old new : List String) :
    chosen SegmentKind.inOld (lineSegments old new) = old := by
  have h := take_append_middle_append_drop (sharedFront_add_sharedBack_le old new).1
  simp only [lineSegments, chosen_append, chosen_map, chosen_inOld_walk, SegmentKind.inOld, if_true]
  exact h

/-- The front and the back are taken from the old text, where they are the same as in the new. -/
theorem chosen_inNew_lineSegments (old new : List String) :
    chosen SegmentKind.inNew (lineSegments old new) = new := by
  have h := take_append_middle_append_drop (sharedFront_add_sharedBack_le old new).2
  rw [← take_sharedFront, ← drop_sharedBack] at h
  simp only [lineSegments, chosen_append, chosen_map, chosen_inNew_walk, SegmentKind.inNew, if_true]
  exact h

theorem join_lines (text : String) : String.join (Text.lines text) = text := by
  rw [← String.toList_inj, String.toList_join, Text.lines, List.flatMap_map]
  simp [Text.flatten_splitLines, List.flatMap_def]

/-- A comparison loses no character of either text and brings in no other. -/
theorem compare_reconstructs (old new : String) :
    oldText (compare old new) = old ∧ newText (compare old new) = new := by
  constructor
  · rw [oldText_eq_join, compare, join_chosen_merge, chosen_inOld_lineSegments, join_lines]
  · rw [newText_eq_join, compare, join_chosen_merge, chosen_inNew_lineSegments, join_lines]

end WorkflowCheck.Diff
