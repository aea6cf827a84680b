/-! The lines of a text, each with the newline that ends it. A last line may lack one.
Joining the lines gives the text back. -/

namespace WorkflowCheck.Text

def splitLines : List Char → List (List Char)
  | [] => []
  | c :: cs =>
    if c = '\n' then [c] :: splitLines cs
    else match splitLines cs with
      | [] => [[c]]
      | l :: ls => (c :: l) :: ls

def lines (text : String) : List String :=
  (splitLines text.toList).map String.ofList

theorem flatten_splitLines (cs : List Char) : (splitLines cs).flatten = cs := by
  induction cs with
  | nil => rfl
  | cons c cs ih =>
    unfold splitLines
    split
    · simp [ih]
    · cases h : splitLines cs with
      | nil => simpa [h] using ih
      | cons l ls => simpa [h] using congrArg (c :: ·) ih

theorem ne_nil_of_mem_splitLines {cs l : List Char} (h : l ∈ splitLines cs) : l ≠ [] := by
  induction cs generalizing l with
  | nil => simp [splitLines] at h
  | cons c cs ih =>
    unfold splitLines at h
    split at h
    · rcases List.mem_cons.mp h with rfl | h
      · simp
      · exact ih h
    · cases hs : splitLines cs with
      | nil => simp_all
      | cons k ks =>
        simp only [hs, List.mem_cons] at h
        rcases h with rfl | h
        · simp
        · exact ih (by simp [hs, h])

end WorkflowCheck.Text
