/-! Longest common subsequences of two lists of lines. A line at the front or at the back of both
lists is always worth taking, which is what an exchange at that end shows. -/

namespace WorkflowCheck.Diff

/-- So many lines can be kept of two lists, and no more. -/
structure IsLongest (a b : List String) (k : Nat) : Prop where
  attained : ∃ l : List String, l.Sublist a ∧ l.Sublist b ∧ l.length = k
  bound : ∀ l : List String, l.Sublist a → l.Sublist b → l.length ≤ k

namespace IsLongest

variable {a b : List String} {k : Nat}

theorem nil_left (b : List String) : IsLongest [] b 0 :=
  ⟨⟨[], List.nil_sublist _, List.nil_sublist _, rfl⟩, fun _ ha _ => ha.length_le⟩

theorem nil_right (a : List String) : IsLongest a [] 0 :=
  ⟨⟨[], List.nil_sublist _, List.nil_sublist _, rfl⟩, fun _ _ hb => hb.length_le⟩

theorem cons (h : IsLongest a b k) (x : String) : IsLongest (x :: a) (x :: b) (k + 1) := by
  obtain ⟨l, ha, hb, hlen⟩ := h.attained
  constructor
  case attained => exact ⟨x :: l, ha.cons_cons x, hb.cons_cons x, congrArg (· + 1) hlen⟩
  case bound =>
    intro l ha hb
    have htail := h.bound l.tail ha.tail hb.tail
    rw [List.length_tail] at htail
    omega

/-- Of two different lines at the front at least one is not kept. -/
theorem cons_cons {x y : String} (hne : x ≠ y) {k' : Nat} (hleft : IsLongest a (y :: b) k)
    (hright : IsLongest (x :: a) b k') : IsLongest (x :: a) (y :: b) (max k k') := by
  constructor
  case attained =>
    obtain ⟨l, ha, hb, hlen⟩ := hleft.attained
    obtain ⟨l', ha', hb', hlen'⟩ := hright.attained
    by_cases hle : k' ≤ k
    · exact ⟨l, ha.cons x, hb, by omega⟩
    · exact ⟨l', ha', hb'.cons y, by omega⟩
  case bound =>
    intro l ha hb
    rcases List.sublist_cons_iff.mp ha with ha' | ⟨rest, rfl, -⟩
    · have := hleft.bound l ha' hb
      omega
    · rcases List.sublist_cons_iff.mp hb with hb' | ⟨rest', heq, -⟩
      · have := hright.bound _ ha hb'
        omega
      · exact absurd (List.cons.inj heq).1 hne

theorem reverse (h : IsLongest a b k) : IsLongest a.reverse b.reverse k := by
  obtain ⟨l, ha, hb, hlen⟩ := h.attained
  refine ⟨⟨l.reverse, ha.reverse, hb.reverse, List.length_reverse.trans hlen⟩, fun l ha hb => ?_⟩
  have hrev := h.bound l.reverse (List.reverse_sublist.mp (by rwa [List.reverse_reverse]))
    (List.reverse_sublist.mp (by rwa [List.reverse_reverse]))
  rwa [List.length_reverse] at hrev

theorem append_left (h : IsLongest a b k) (front : List String) :
    IsLongest (front ++ a) (front ++ b) (front.length + k) := by
  induction front with
  | nil => simpa using h
  | cons x front ih =>
    have hcons := ih.cons x
    rwa [Nat.add_right_comm] at hcons

theorem append_right (h : IsLongest a b k) (back : List String) :
    IsLongest (a ++ back) (b ++ back) (k + back.length) := by
  have hrev := (h.reverse.append_left back.reverse).reverse
  simpa [Nat.add_comm] using hrev

end IsLongest

/-- How many lines a longest common subsequence of two lists has, by recursion on both. -/
def longest : List String → List String → Nat
  | x :: a, y :: b =>
    if x = y then longest a b + 1 else max (longest a (y :: b)) (longest (x :: a) b)
  | _, _ => 0
termination_by a b => a.length + b.length

@[simp] theorem longest_nil_left (b : List String) : longest [] b = 0 := by
  simp [longest]

@[simp] theorem longest_nil_right (a : List String) : longest a [] = 0 := by
  simp [longest]

theorem longest_cons_cons (x y : String) (a b : List String) :
    longest (x :: a) (y :: b) =
      if x = y then longest a b + 1 else max (longest a (y :: b)) (longest (x :: a) b) := by
  rw [longest]

theorem isLongest_longest (a b : List String) : IsLongest a b (longest a b) := by
  fun_induction longest a b with
  | case1 a x b ih => exact ih.cons x
  | case2 x a y b hne ihleft ihright => exact .cons_cons hne ihleft ihright
  | case3 a b hempty =>
    cases a with
    | nil => exact .nil_left b
    | cons x a =>
      cases b with
      | nil => exact .nil_right (x :: a)
      | cons y b => exact absurd rfl (hempty x a y b rfl)

theorem longest_le_length_left (a b : List String) : longest a b ≤ a.length := by
  obtain ⟨l, ha, -, hlen⟩ := (isLongest_longest a b).attained
  exact hlen ▸ ha.length_le

theorem longest_le_cons_right (a b : List String) (y : String) : longest a b ≤ longest a (y :: b) := by
  obtain ⟨l, ha, hb, hlen⟩ := (isLongest_longest a b).attained
  exact hlen ▸ (isLongest_longest a (y :: b)).bound l ha (hb.cons y)

end WorkflowCheck.Diff
