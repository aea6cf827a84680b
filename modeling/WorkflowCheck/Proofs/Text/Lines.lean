import Mathlib.Data.List.Induction
import WorkflowCheck.Text.Lines

/-! Lines joined and split again. Lines keep their borders in a text if each of them ends in a
newline, the last one perhaps excepted. -/

namespace WorkflowCheck.Text

theorem splitLines_newline (cs : List Char) : splitLines ('\n' :: cs) = ['\n'] :: splitLines cs := by
  rw [splitLines, if_pos rfl]

theorem splitLines_cons {c : Char} (hc : c ≠ '\n') {cs l : List Char} {ls : List (List Char)}
    (h : splitLines cs = l :: ls) : splitLines (c :: cs) = (c :: l) :: ls := by
  rw [splitLines, if_neg hc, h]

theorem splitLines_eq_nil {cs : List Char} : splitLines cs = [] ↔ cs = [] := by
  constructor
  · intro h
    rw [← flatten_splitLines cs, h, List.flatten_nil]
  · rintro rfl
    rfl

theorem exists_splitLines {cs : List Char} (h : cs ≠ []) : ∃ l ls, splitLines cs = l :: ls :=
  List.exists_cons_of_ne_nil (mt splitLines_eq_nil.mp h)

theorem splitLines_append {a : List Char} (h : a.getLast? = some '\n') (b : List Char) :
    splitLines (a ++ b) = splitLines a ++ splitLines b := by
  induction a with
  | nil => simp at h
  | cons c cs ih =>
    by_cases hcs : cs = []
    · subst hcs
      obtain rfl : c = '\n' := by simpa using h
      rw [List.singleton_append, splitLines_newline, splitLines_newline]
      rfl
    · have hlast : cs.getLast? = some '\n' := by rwa [List.getLast?_cons_of_ne_nil hcs] at h
      have happend := ih hlast
      by_cases hc : c = '\n'
      · rw [hc, List.cons_append, splitLines_newline, splitLines_newline, happend]
        rfl
      · obtain ⟨l, ls, hl⟩ := exists_splitLines hcs
        rw [hl] at happend
        rw [List.cons_append, splitLines_cons hc happend, splitLines_cons hc hl]
        rfl

theorem splitLines_of_mem {cs l : List Char} (h : l ∈ splitLines cs) : splitLines l = [l] := by
  induction cs generalizing l with
  | nil => simp [splitLines] at h
  | cons c cs ih =>
    by_cases hc : c = '\n'
    · rw [hc, splitLines_newline] at h
      rcases List.mem_cons.mp h with rfl | h
      · rfl
      · exact ih h
    · by_cases hcs : cs = []
      · subst hcs
        obtain rfl : l = [c] := by simpa [splitLines, hc] using h
        simp [splitLines, hc]
      · obtain ⟨k, ks, hk⟩ := exists_splitLines hcs
        rw [splitLines_cons hc hk] at h
        rcases List.mem_cons.mp h with rfl | h
        · exact splitLines_cons hc (ih (hk ▸ List.mem_cons_self))
        · exact ih (hk ▸ List.mem_cons_of_mem k h)

theorem getLast?_of_mem_dropLast {cs l : List Char} (h : l ∈ (splitLines cs).dropLast) :
    l.getLast? = some '\n' := by
  induction cs generalizing l with
  | nil => simp [splitLines] at h
  | cons c cs ih =>
    by_cases hcs : cs = []
    · subst hcs
      by_cases hc : c = '\n' <;> simp [splitLines, hc] at h
    · obtain ⟨k, ks, hk⟩ := exists_splitLines hcs
      rw [hk] at ih
      by_cases hc : c = '\n'
      · rw [hc, splitLines_newline, hk, List.dropLast_cons_cons] at h
        rcases List.mem_cons.mp h with rfl | h
        · rfl
        · exact ih h
      · rw [splitLines_cons hc hk] at h
        cases ks with
        | nil => simp at h
        | cons k' ks =>
          rw [List.dropLast_cons_cons] at h ih
          rcases List.mem_cons.mp h with rfl | h
          · have hlast := ih List.mem_cons_self
            rw [List.getLast?_cons, hlast]
            rfl
          · exact ih (List.mem_cons_of_mem k h)

/-- Characters without a newline go in front of the first line of what follows them. -/
theorem splitLines_append_of_not_mem {a b l : List Char} {ls : List (List Char)}
    (ha : '\n' ∉ a) (hb : splitLines b = l :: ls) : splitLines (a ++ b) = (a ++ l) :: ls := by
  induction a with
  | nil => exact hb
  | cons c cs ih =>
    rw [List.mem_cons, not_or] at ha
    exact splitLines_cons (Ne.symm ha.1) (ih ha.2)

/-- The last line that a text has begun, and the whole lines in front of it. -/
theorem exists_last_line (cs : List Char) :
    ∃ whole begun, cs = whole ++ begun ∧ '\n' ∉ begun ∧
      ∀ b, splitLines (whole ++ b) = splitLines whole ++ splitLines b := by
  induction cs using List.reverseRecOn with
  | nil => exact ⟨[], [], rfl, List.not_mem_nil, fun _ => rfl⟩
  | append_singleton cs c ih =>
    by_cases hc : c = '\n'
    · subst hc
      exact ⟨cs ++ ['\n'], [], by simp, List.not_mem_nil, splitLines_append (by simp)⟩
    · obtain ⟨whole, begun, rfl, hbegun, happend⟩ := ih
      refine ⟨whole, begun ++ [c], by simp, ?_, happend⟩
      simpa [List.mem_append, hbegun] using Ne.symm hc

theorem exists_splitLines_between (before : List Char) {after : List Char} (h : after ≠ []) :
    ∃ above left right below, ∀ x, '\n' ∉ x →
      splitLines (before ++ (x ++ after)) = above ++ (left ++ (x ++ right)) :: below := by
  obtain ⟨whole, begun, rfl, hbegun, happend⟩ := exists_last_line before
  obtain ⟨right, below, hafter⟩ := exists_splitLines h
  refine ⟨splitLines whole, begun, right, below, fun x hx => ?_⟩
  have hline := splitLines_append_of_not_mem hbegun (splitLines_append_of_not_mem hx hafter)
  rw [List.append_assoc, happend, hline]

/-- One line has its newline at its end or not at all. -/
theorem getLast?_of_splitLines_eq_singleton {cs : List Char} (h : splitLines cs = [cs])
    (hmem : '\n' ∈ cs) : cs.getLast? = some '\n' := by
  induction cs with
  | nil => simp at hmem
  | cons c cs ih =>
    by_cases hc : c = '\n'
    · rw [hc, splitLines_newline, List.cons.injEq, splitLines_eq_nil] at h
      rw [hc, h.2]
      rfl
    · have hmem' : '\n' ∈ cs := (List.mem_cons.mp hmem).resolve_left (Ne.symm hc)
      have hcs : cs ≠ [] := List.ne_nil_of_mem hmem'
      obtain ⟨k, ks, hk⟩ := exists_splitLines hcs
      rw [splitLines_cons hc hk, List.cons.injEq, List.cons.injEq] at h
      obtain ⟨⟨-, rfl⟩, rfl⟩ := h
      rw [List.getLast?_cons_of_ne_nil hcs]
      exact ih hk hmem'

/-- The text ends in a newline. -/
def Ended (text : String) : Prop := text.toList.getLast? = some '\n'

instance : DecidablePred Ended := fun _ => inferInstanceAs (Decidable (_ = some '\n'))

theorem lines_eq_nil {text : String} : lines text = [] ↔ text = "" := by
  rw [lines, List.map_eq_nil_iff, splitLines_eq_nil, String.toList_eq_nil_iff]

theorem ne_empty_of_mem_lines {text l : String} (h : l ∈ lines text) : l ≠ "" := by
  obtain ⟨cs, hcs, rfl⟩ := List.mem_map.mp h
  have hne : cs ≠ [] := ne_nil_of_mem_splitLines hcs
  simpa using hne

theorem lines_append {a : String} (h : Ended a) (b : String) :
    lines (a ++ b) = lines a ++ lines b := by
  rw [lines, String.toList_append, splitLines_append h, List.map_append]
  rfl

theorem lines_join_append {ls : List String} (h : ∀ l ∈ ls, lines l = [l] ∧ Ended l) (b : String) :
    lines (String.join ls ++ b) = ls ++ lines b := by
  induction ls with
  | nil => rw [String.join_nil, String.empty_append, List.nil_append]
  | cons l ls ih =>
    rw [List.forall_mem_cons] at h
    rw [String.join_cons, String.append_assoc, lines_append h.1.2, h.1.1, ih h.2]
    rfl

theorem lines_append_of_not_mem {a b l : String} {ls : List String} (ha : '\n' ∉ a.toList)
    (hb : lines b = l :: ls) : lines (a ++ b) = (a ++ l) :: ls := by
  obtain ⟨cs, css, hsplit, rfl, rfl⟩ := List.map_eq_cons_iff.mp hb
  rw [lines, String.toList_append, splitLines_append_of_not_mem ha hsplit, List.map_cons,
    String.ofList_append, String.ofList_toList]

theorem ended_of_mem {l : String} (h : lines l = [l]) (hmem : '\n' ∈ l.toList) : Ended l := by
  obtain ⟨cs, hsplit, rfl⟩ := List.map_eq_singleton_iff.mp h
  rw [String.toList_ofList] at hsplit
  rw [Ended, String.toList_ofList]
  rw [String.toList_ofList] at hmem
  exact getLast?_of_splitLines_eq_singleton hsplit hmem

theorem lines_of_mem {text l : String} (h : l ∈ lines text) : lines l = [l] := by
  obtain ⟨cs, hcs, rfl⟩ := List.mem_map.mp h
  rw [lines, String.toList_ofList, splitLines_of_mem hcs]
  rfl

theorem ended_of_append {a b : String} (h : Ended (a ++ b)) (hb : b ≠ "") : Ended b := by
  have hne : b.toList ≠ [] := mt String.toList_eq_nil_iff.mp hb
  rw [Ended, String.toList_append, List.getLast?_append, List.getLast?_eq_some_getLast hne,
    Option.some_or] at h
  rwa [Ended, List.getLast?_eq_some_getLast hne]

/-- Each text is one line, and all of them end in a newline but perhaps the last. -/
structure Lined (ls : List String) : Prop where
  single : ∀ l ∈ ls, lines l = [l]
  ended : ∀ l ∈ ls.dropLast, Ended l

theorem lined_lines (text : String) : Lined (lines text) := by
  constructor
  case single => exact fun l h => lines_of_mem h
  case ended =>
    intro l h
    rw [lines, ← List.map_dropLast] at h
    obtain ⟨cs, hcs, rfl⟩ := List.mem_map.mp h
    rw [Ended, String.toList_ofList]
    exact getLast?_of_mem_dropLast hcs

namespace Lined

variable {l : String} {ls : List String}

theorem tail (h : Lined (l :: ls)) : Lined ls := by
  constructor
  case single => exact fun k hk => h.single k (List.mem_cons_of_mem l hk)
  case ended =>
    intro k hk
    have hne : ls ≠ [] := by
      rintro rfl
      simp at hk
    apply h.ended
    rw [List.dropLast_cons_of_ne_nil hne]
    exact List.mem_cons_of_mem l hk

theorem ended_head (h : Lined (l :: ls)) (hne : ls ≠ []) : Ended l := by
  apply h.ended
  rw [List.dropLast_cons_of_ne_nil hne]
  exact List.mem_cons_self

theorem lines_join (h : Lined ls) : lines (String.join ls) = ls := by
  induction ls with
  | nil => rfl
  | cons l ls ih =>
    have hl : lines l = [l] := h.single l List.mem_cons_self
    by_cases hne : ls = []
    · subst hne
      simpa using hl
    · rw [String.join_cons, lines_append (h.ended_head hne), hl, ih h.tail]
      rfl

end Lined

end WorkflowCheck.Text
