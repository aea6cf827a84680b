import WorkflowCheck.Pointer

/-! Pointers lead back to the steps that they were made of, whatever characters the steps hold. -/

namespace WorkflowCheck.Pointer

/-- The pointer that spells some steps from the root on. -/
def ofSteps (steps : List String) : String := steps.foldl child ""

theorem replacePair_cons_of_ne {a b c x : Char} (h : x ≠ a) (rest : List Char) :
    replacePair a b c (x :: rest) = x :: replacePair a b c rest := by
  cases rest with
  | nil => simp only [replacePair]
  | cons y rest =>
    have hxy : ¬(x = a ∧ y = b) := fun hh => h hh.1
    simp only [replacePair, if_neg hxy]

theorem replacePair_slashes (step : List Char) :
    replacePair '~' '1' '/' (replaceChar '/' ['~', '1'] (replaceChar '~' ['~', '0'] step)) =
      replaceChar '~' ['~', '0'] step := by
  simp only [replaceChar]
  induction step with
  | nil => rfl
  | cons c rest ih =>
    by_cases ht : c = '~'
    · subst ht
      simpa [replacePair, replacePair_cons_of_ne] using ih
    · by_cases hs : c = '/'
      · subst hs
        simpa [replacePair] using ih
      · simpa [ht, hs, replacePair_cons_of_ne] using ih

theorem replacePair_tildes (step : List Char) :
    replacePair '~' '0' '~' (replaceChar '~' ['~', '0'] step) = step := by
  simp only [replaceChar]
  induction step with
  | nil => rfl
  | cons c rest ih =>
    by_cases ht : c = '~'
    · subst ht
      simpa [replacePair] using ih
    · simpa [ht, replacePair_cons_of_ne] using ih

theorem unescape_escape (step : String) : unescape (escape step) = step := by
  simp only [unescape, escape, String.toList_ofList, replacePair_slashes, replacePair_tildes,
    String.ofList_toList]

theorem slash_notMem_escape (step : String) : '/' ∉ (escape step).toList := by
  simp only [escape, String.toList_ofList, replaceChar, List.mem_flatMap]
  rintro ⟨d, -, hd⟩
  split at hd
  · simp at hd
  · next hne => exact hne (List.mem_singleton.mp hd).symm

theorem splitSteps_ne_nil (p : List Char) : splitSteps p ≠ [] := by
  cases p with
  | nil => simp [splitSteps]
  | cons c cs =>
    unfold splitSteps
    split
    · simp
    · split <;> simp

theorem splitSteps_of_notMem {p : List Char} (h : '/' ∉ p) : splitSteps p = [p] := by
  induction p with
  | nil => rfl
  | cons c cs ih =>
    rw [List.mem_cons, not_or] at h
    rw [splitSteps, if_neg (Ne.symm h.1), ih h.2]

theorem splitSteps_append_slash (p q : List Char) :
    splitSteps (p ++ '/' :: q) = splitSteps p ++ splitSteps q := by
  induction p with
  | nil => simp [splitSteps]
  | cons c cs ih =>
    by_cases hc : c = '/'
    · simp [splitSteps, hc, ih]
    · obtain ⟨x, xs, hx⟩ := List.exists_cons_of_ne_nil (splitSteps_ne_nil cs)
      simp [splitSteps, hc, ih, hx]

theorem steps_empty : steps "" = [] := rfl

theorem splitSteps_child (parent step : String) :
    splitSteps (child parent step).toList = splitSteps parent.toList ++ [(escape step).toList] := by
  have hlist : (child parent step).toList = parent.toList ++ '/' :: (escape step).toList := by
    simp [child]
  rw [hlist, splitSteps_append_slash, splitSteps_of_notMem (slash_notMem_escape step)]

theorem steps_child (parent step : String) : steps (child parent step) = steps parent ++ [step] := by
  obtain ⟨x, xs, hx⟩ := List.exists_cons_of_ne_nil (splitSteps_ne_nil parent.toList)
  rw [steps, steps, splitSteps_child, hx]
  simp [unescape_escape]

theorem steps_foldl_child (parent : String) (path : List String) :
    steps (path.foldl child parent) = steps parent ++ path := by
  induction path generalizing parent with
  | nil => simp
  | cons step rest ih => rw [List.foldl_cons, ih, steps_child, List.append_assoc, List.singleton_append]

/-- Each step has a piece of its own between the slashes, as it is written with its escapes. -/
theorem splitSteps_foldl_child (parent : String) (path : List String) :
    splitSteps (path.foldl child parent).toList =
      splitSteps parent.toList ++ path.map fun step => (escape step).toList := by
  induction path generalizing parent with
  | nil => simp
  | cons step rest ih =>
    rw [List.foldl_cons, ih, splitSteps_child, List.append_assoc, List.singleton_append,
      List.map_cons]

theorem steps_ofSteps (path : List String) : steps (ofSteps path) = path := by
  rw [ofSteps, steps_foldl_child, steps_empty, List.nil_append]

theorem ofSteps_injective : Function.Injective ofSteps := by
  intro path path' h
  rw [← steps_ofSteps path, h, steps_ofSteps]

end WorkflowCheck.Pointer
