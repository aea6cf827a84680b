import Mathlib.Data.List.Basic
import WorkflowCheck.Proofs.Path

/-! How a path ends. Slashes and `.` parts at its end take no step, so that the last component is what
stands before them, and what stands before the last component does not matter to it. -/

namespace WorkflowCheck.Path

/-- Passes slashes and `/.` parts, in a path that is read from its end. -/
def dropBlankEnd : Bytes → Bytes
  | [] => []
  | [b] => if b = slash then [] else [b]
  | b :: c :: rest =>
    if b = slash then dropBlankEnd (c :: rest)
    else if [b] = dot ∧ c = slash then dropBlankEnd rest
    else b :: c :: rest

/-- The path without the slashes and `/.` parts at its end. -/
def trimEnd (path : Bytes) : Bytes := (dropBlankEnd path.reverse).reverse

variable {path name : Bytes}

theorem components_nil : components [] = [] := rfl

theorem components_dot : components dot = [] := rfl

theorem components_slash_slash (a b : Bytes) :
    components (a ++ slash :: slash :: b) = components (a ++ slash :: b) := by
  have h : components (slash :: b) = components b := components_append_slash [] b
  rw [components_append_slash, h, components_append_slash]

theorem components_slash_dot_slash (a b : Bytes) :
    components (a ++ slash :: (dot ++ slash :: b)) = components (a ++ slash :: b) := by
  rw [components_append_slash, components_append_slash, components_dot, List.nil_append,
    components_append_slash]

theorem components_append_slash_end (a : Bytes) : components (a ++ [slash]) = components a := by
  rw [components_append_slash, components_nil, List.append_nil]

theorem components_append_slash_dot (a : Bytes) : components (a ++ slash :: dot) = components a := by
  rw [components_append_slash, components_dot, List.append_nil]

theorem fileName_congr {a b : Bytes} (h : components a = components b) : fileName a = fileName b := by
  rw [fileName, fileName, h]

theorem components_dropBlankEnd (reversed : Bytes) :
    components (dropBlankEnd reversed).reverse = components reversed.reverse := by
  fun_induction dropBlankEnd reversed with
  | case1 => rfl
  | case2 => rfl
  | case3 => rfl
  | case4 c rest ih =>
    rw [ih, List.reverse_cons (a := slash), components_append_slash_end]
  | case5 b c rest hb hdot ih =>
    obtain ⟨hdot, rfl⟩ := hdot
    rw [ih, List.reverse_cons, List.reverse_cons, List.append_assoc, List.singleton_append, hdot,
      components_append_slash_dot]
  | case6 => rfl

theorem fileName_trimEnd (path : Bytes) : fileName (trimEnd path) = fileName path := by
  refine fileName_congr ?_
  rw [trimEnd, components_dropBlankEnd, List.reverse_reverse]

/-- No slash and no `/.` part is left at the end. -/
theorem not_suffix_trimEnd (path : Bytes) :
    ¬[slash] <:+ trimEnd path ∧ ¬slash :: dot <:+ trimEnd path := by
  have hdropped (reversed : Bytes) : ¬[slash] <+: dropBlankEnd reversed ∧
      ¬dot ++ [slash] <+: dropBlankEnd reversed := by
    fun_induction dropBlankEnd reversed with
    | case1 => decide
    | case2 => decide
    | case3 b hb => simp [List.cons_prefix_cons, dot, Ne.symm hb]
    | case4 c rest ih => exact ih
    | case5 b c rest hb hdot ih => exact ih
    | case6 b c rest hb hdot =>
      simp only [dot, List.cons.injEq, and_true] at hdot
      simp [List.cons_prefix_cons, dot, Ne.symm hb, eq_comm, hdot]
  obtain ⟨hslash, hdot⟩ := hdropped path.reverse
  constructor
  · rwa [trimEnd, ← List.reverse_prefix, List.reverse_reverse]
  · rwa [trimEnd, ← List.reverse_prefix, List.reverse_reverse]

/-- A path has no slash, or it is taken apart at its last one. -/
theorem eq_or_exists_last_slash (path : Bytes) :
    slash ∉ path ∨ ∃ above last, path = above ++ slash :: last ∧ slash ∉ last := by
  induction path with
  | nil => exact .inl List.not_mem_nil
  | cons b rest ih =>
    rcases ih with hrest | ⟨above, last, rfl, hlast⟩
    · by_cases hb : b = slash
      · exact .inr ⟨[], rest, by rw [hb]; rfl, hrest⟩
      · exact .inl (List.not_mem_cons_of_ne_of_not_mem (Ne.symm hb) hrest)
    · exact .inr ⟨b :: above, last, rfl, hlast⟩

theorem components_of_not_mem (h : slash ∉ path) (hnil : path ≠ []) (hdot : path ≠ dot) :
    components path = [path] := by
  rw [components, split_of_not_mem h]
  simp [hnil, hdot]

theorem eq_or_suffix_of_getLast? (h : (components (trimEnd path)).getLast? = some name) :
    trimEnd path = name ∨ slash :: name <:+ trimEnd path := by
  obtain ⟨hslash, hdot⟩ := not_suffix_trimEnd path
  rcases eq_or_exists_last_slash (trimEnd path) with hnone | ⟨above, last, heq, hlast⟩
  · by_cases hblank : trimEnd path = [] ∨ trimEnd path = dot
    · rcases hblank with hblank | hblank <;> rw [hblank] at h <;> nomatch h
    · rw [not_or] at hblank
      rw [components_of_not_mem hnone hblank.1 hblank.2, List.getLast?_singleton] at h
      exact .inl (Option.some.inj h)
  · have hnil : last ≠ [] := by
      rintro rfl
      exact hslash ⟨above, heq.symm⟩
    have hne : last ≠ dot := by
      rintro rfl
      exact hdot ⟨above, heq.symm⟩
    rw [heq, components_append_slash, components_of_not_mem hlast hnil hne, List.getLast?_concat] at h
    cases h
    exact .inr ⟨above, heq.symm⟩

theorem fileName_eq_some : fileName path = some name ↔
    (components path).getLast? = some name ∧ name ≠ dotDot := by
  unfold fileName
  cases (components path).getLast? with
  | none => simp
  | some last =>
    by_cases hlast : last = dotDot
    · simp [hlast, eq_comm]
    · simp only [hlast, if_false, Option.some.injEq]
      constructor
      · rintro rfl
        exact ⟨rfl, hlast⟩
      · exact And.left

/-- The file name of a path is what its trimmed form is or ends in, behind a slash. -/
theorem fileName_eq_some_iff (h : IsName name) :
    fileName path = some name ↔ trimEnd path = name ∨ slash :: name <:+ trimEnd path := by
  rw [← fileName_trimEnd path]
  constructor
  · intro hname
    exact eq_or_suffix_of_getLast? (fileName_eq_some.mp hname).1
  · intro hends
    refine fileName_eq_some.mpr ⟨?_, h.ne_dotDot⟩
    rcases hends with heq | ⟨above, heq⟩
    · rw [heq, components_of_isName h, List.getLast?_singleton]
    · rw [← heq, components_append_slash, components_of_isName h, List.getLast?_concat]

/-- What stands before a path that has a file name does not matter to the name. -/
theorem fileName_append_slash (above : Bytes) (h : (fileName path).isSome) :
    fileName (above ++ slash :: path) = fileName path := by
  have hne : components path ≠ [] := by
    intro hnil
    rw [fileName, hnil] at h
    exact Bool.false_ne_true h
  rw [fileName, fileName, components_append_slash, List.getLast?_append_of_ne_nil _ hne]

end WorkflowCheck.Path
