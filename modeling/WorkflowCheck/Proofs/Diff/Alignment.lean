import WorkflowCheck.Proofs.Diff.Reconstruction
import WorkflowCheck.Proofs.Diff.Table

/-! The walk without its table. Where two lines differ, the lengths that the table holds are those
of the two ways to go on, so the walk is a recursion on the lists alone. -/

namespace WorkflowCheck.Diff

def align : List String → List String → List Segment
  | [], b => b.map (⟨.added, ·⟩)
  | a, [] => a.map (⟨.removed, ·⟩)
  | x :: a, y :: b =>
    if x = y then ⟨.common, x⟩ :: align a b
    else if longest a (y :: b) ≥ longest (x :: a) b then ⟨.removed, x⟩ :: align a (y :: b)
    else ⟨.added, y⟩ :: align (x :: a) b
termination_by a b => a.length + b.length

theorem align_nil_right (a : List String) : align a [] = a.map (⟨.removed, ·⟩) := by
  cases a <;> simp [align]

theorem drop_succ_of_drop_eq_cons {lines rest : List String} {x : String} {i : Nat}
    (h : lines.drop i = x :: rest) : lines.drop (i + 1) = rest := by
  rw [← List.drop_drop, h, List.drop_one, List.tail_cons]

theorem walk_eq_align {old new : List String} (i j : Nat) (a b : List String)
    (hi : i + a.length = old.length) (hj : j + b.length = new.length)
    (ha : old.drop i = a) (hb : new.drop j = b) :
    walk (Table.ofLines old new) i j a b hi hj = align a b := by
  fun_induction walk (Table.ofLines old new) i j a b hi hj with
  | case1 => rw [align]
  | case2 => exact (align_nil_right _).symm
  | case3 i j a x b _ _ _ _ _ _ ih =>
    rw [align, if_pos rfl, ih (drop_succ_of_drop_eq_cons ha) (drop_succ_of_drop_eq_cons hb)]
  | case4 i j x a y b _ _ _ _ hne hge _ _ ih =>
    rw [Table.cell_ofLines, Table.cell_ofLines, drop_succ_of_drop_eq_cons ha, hb, ha,
      drop_succ_of_drop_eq_cons hb] at hge
    rw [align, if_neg hne, if_pos hge, ih (drop_succ_of_drop_eq_cons ha) hb]
  | case5 i j x a y b _ _ _ _ hne hge _ _ ih =>
    rw [Table.cell_ofLines, Table.cell_ofLines, drop_succ_of_drop_eq_cons ha, hb, ha,
      drop_succ_of_drop_eq_cons hb] at hge
    rw [align, if_neg hne, if_neg hge, ih ha (drop_succ_of_drop_eq_cons hb)]

/-- Lines of one of two lists, without those set aside at the front and at the back of both. -/
def between (old new lines : List String) : List String :=
  (lines.drop (sharedFront old new)).take
    (lines.length - sharedFront old new - sharedBack old new)

theorem lineSegments_eq_align (old new : List String) :
    lineSegments old new =
      (old.take (sharedFront old new)).map (⟨.common, ·⟩) ++
        align (between old new old) (between old new new) ++
        (old.drop (old.length - sharedBack old new)).map (⟨.common, ·⟩) := by
  rw [← walk_eq_align 0 0 (between old new old) (between old new new) (Nat.zero_add _)
    (Nat.zero_add _) rfl rfl]
  rfl

/-- What is set aside at the front and at the back is the same in both lists, and the rest is
aligned. -/
theorem exists_lineSegments (old new : List String) : ∃ front a b back,
    old = front ++ a ++ back ∧ new = front ++ b ++ back ∧
      lineSegments old new =
        front.map (⟨.common, ·⟩) ++ align a b ++ back.map (⟨.common, ·⟩) := by
  have hle := sharedFront_add_sharedBack_le old new
  have hold := take_append_middle_append_drop hle.1
  have hnew := take_append_middle_append_drop hle.2
  rw [← take_sharedFront, ← drop_sharedBack] at hnew
  exact ⟨_, _, _, _, hold.symm, hnew.symm, lineSegments_eq_align old new⟩

theorem lineSegments_nil_right (lines : List String) :
    lineSegments lines [] = lines.map (⟨.removed, ·⟩) := by
  obtain ⟨front, a, b, back, hold, hnew, heq⟩ := exists_lineSegments lines []
  obtain ⟨hfront, hback⟩ := List.append_eq_nil_iff.mp hnew.symm
  obtain ⟨rfl, rfl⟩ := List.append_eq_nil_iff.mp hfront
  rw [heq, hold, hback, align_nil_right]
  simp

/-- Two lines by themselves are either shared or changed. -/
theorem lineSegments_singleton {x y : String} (h : x ≠ y) :
    lineSegments [x] [y] = [⟨.removed, x⟩, ⟨.added, y⟩] := by
  obtain ⟨front, a, b, back, hold, hnew, heq⟩ := exists_lineSegments [x] [y]
  have hfront : front = [] := by
    cases front with
    | nil => rfl
    | cons l ls =>
      have hx : x = l := by simpa using congrArg List.head? hold
      have hy : y = l := by simpa using congrArg List.head? hnew
      exact absurd (hx.trans hy.symm) h
  have hback : back = [] := by
    rcases List.eq_nil_or_concat back with hnil | ⟨ls, l, rfl⟩
    · exact hnil
    · have hx : x = l := by simpa using congrArg List.getLast? hold
      have hy : y = l := by simpa using congrArg List.getLast? hnew
      exact absurd (hx.trans hy.symm) h
  subst hfront hback
  simp only [List.nil_append, List.append_nil] at hold hnew
  subst hold hnew
  rw [heq]
  simp [align, h]

end WorkflowCheck.Diff
