import WorkflowCheck.Proofs.Json.Rows

/-! One string of a value replaced by another. All around it is written as before, and the strings
themselves stand in one line. -/

namespace WorkflowCheck

/-- The second value is the first one with one of its strings replaced by a different one. -/
inductive Value.Reworded : Value → Value → Prop
  | string {a b : String} (h : a ≠ b) : Reworded (.string a) (.string b)
  | item {v w : Value} (before after : List Value) (h : Reworded v w) :
      Reworded (.array (before ++ v :: after)) (.array (before ++ w :: after))
  | entry {v w : Value} (before : List (String × Value)) (key : String)
      (after : List (String × Value)) (h : Reworded v w) :
      Reworded (.object (before ++ (key, v) :: after)) (.object (before ++ (key, w) :: after))

namespace Json

theorem quote_injective : Function.Injective quote := by
  intro a b h
  have ha := Reads.quoted a []
  rw [h] at ha
  obtain ⟨i, hi⟩ := ha 0
  obtain ⟨j, hj⟩ := Reads.quoted b [] 0
  rw [hi] at hj
  exact congrArg Prod.fst (Except.ok.inj hj)

/-- The texts are the same but for one quoted string. -/
def QuotedApart (x y : List Char) : Prop :=
  ∃ before a b after, a ≠ b ∧ x = before ++ (quote a ++ after) ∧ y = before ++ (quote b ++ after)

theorem QuotedApart.within {x y : List Char} (h : QuotedApart x y) (before after : List Char) :
    QuotedApart (before ++ (x ++ after)) (before ++ (y ++ after)) := by
  obtain ⟨left, a, b, right, hne, rfl, rfl⟩ := h
  exact ⟨before ++ left, a, b, right ++ after, hne, by simp, by simp⟩

namespace Layout

variable (l : Layout)

theorem exists_inside (first : Bool) (level : Nat) (xs ys : List (List Char)) :
    ∃ before after, ∀ t, l.inside first level (xs ++ t :: ys) = before ++ (t ++ after) := by
  induction xs generalizing first with
  | nil =>
    exact ⟨(if first then [] else [',']) ++ l.gap level, l.inside false level ys, fun t => by
      simp [inside]⟩
  | cons x xs ih =>
    obtain ⟨before, after, h⟩ := ih false
    exact ⟨(if first then [] else [',']) ++ (l.gap level ++ (x ++ before)), after, fun t => by
      simp [inside, h]⟩

theorem exists_enclose (level : Nat) (opening closing : Char) (xs ys : List (List Char)) :
    ∃ before after, ∀ t,
      l.enclose level opening closing (xs ++ t :: ys) = before ++ (t ++ after) := by
  obtain ⟨before, after, h⟩ := l.exists_inside true (level + 1) xs ys
  refine ⟨opening :: before, after ++ (l.gap level ++ [closing]), fun t => ?_⟩
  have hne : l.enclose level opening closing (xs ++ t :: ys) =
      opening :: (l.inside true (level + 1) (xs ++ t :: ys) ++ (l.gap level ++ [closing])) := by
    cases xs <;> rfl
  simp [hne, h]

theorem writeItems_eq (level : Nat) (items : List Value) :
    l.writeItems level items = items.map (l.write level) := by
  induction items with
  | nil => rfl
  | cons v rest ih => rw [writeItems, ih, List.map_cons]

theorem writeEntries_eq (level : Nat) (entries : List (String × Value)) :
    l.writeEntries level entries = entries.map fun e => l.entry e.1 (l.write level e.2) := by
  induction entries with
  | nil => rfl
  | cons e rest ih => rw [writeEntries, ih, List.map_cons]

end Layout

theorem quotedApart_write (l : Layout) {v w : Value} (h : v.Reworded w) (level : Nat) :
    QuotedApart (l.write level v) (l.write level w) := by
  induction h generalizing level with
  | @string a b hne => exact ⟨[], a, b, [], hne, by simp [Layout.write], by simp [Layout.write]⟩
  | item before after _ ih =>
    obtain ⟨left, right, h⟩ := l.exists_enclose level '[' ']'
      (before.map (l.write (level + 1))) (after.map (l.write (level + 1)))
    simp only [Layout.write, l.writeItems_eq, List.map_append, List.map_cons, h]
    exact (ih (level + 1)).within left right
  | entry before key after _ ih =>
    let write (e : String × Value) : List Char := l.entry e.1 (l.write (level + 1) e.2)
    obtain ⟨left, right, h⟩ := l.exists_enclose level '{' '}' (before.map write) (after.map write)
    simp only [Layout.write, l.writeEntries_eq, List.map_append, List.map_cons]
    rw [h, h]
    have hentry := (ih (level + 1)).within (quote key ++ ':' :: l.space) []
    simp only [List.append_nil, List.append_assoc, List.cons_append] at hentry
    exact hentry.within left right

theorem newline_not_mem_quote (s : String) : '\n' ∉ quote s := (row_quote s).newline_not_mem

theorem QuotedApart.splitLines {x y : List Char} (h : QuotedApart x y) :
    ∃ above line line' below, line ≠ line' ∧
      Text.splitLines (x ++ ['\n']) = above ++ line :: below ∧
      Text.splitLines (y ++ ['\n']) = above ++ line' :: below := by
  obtain ⟨before, a, b, after, hne, rfl, rfl⟩ := h
  have hafter : after ++ ['\n'] ≠ [] := by simp
  -- the string stands in one line of its own surroundings, whichever string it is
  obtain ⟨above, left, right, below, hlines⟩ := Text.exists_splitLines_between before hafter
  refine ⟨above, left ++ (quote a ++ right), left ++ (quote b ++ right), below, ?_, ?_, ?_⟩
  · intro heq
    exact hne (quote_injective (List.append_cancel_right (List.append_cancel_left heq)))
  · rw [← hlines _ (newline_not_mem_quote a)]
    simp
  · rw [← hlines _ (newline_not_mem_quote b)]
    simp

end Json

end WorkflowCheck
