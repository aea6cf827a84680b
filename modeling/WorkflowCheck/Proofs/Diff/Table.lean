import WorkflowCheck.Diff
import WorkflowCheck.Proofs.Diff.Longest

/-! What the cells of a table hold. A filled table has at each of its cells the length of a longest
common subsequence of what is left of both lists from there. The filling goes backwards, so that
every cell looks only at cells which are done. -/

namespace WorkflowCheck.Diff

theorem longest_drop {a b : List String} {i j : Nat} (hi : i < a.length) (hj : j < b.length) :
    longest (a.drop i) (b.drop j) =
      if a[i] = b[j] then longest (a.drop (i + 1)) (b.drop (j + 1)) + 1
      else max (longest (a.drop (i + 1)) (b.drop j)) (longest (a.drop i) (b.drop (j + 1))) := by
  rw [List.drop_eq_getElem_cons hi, List.drop_eq_getElem_cons hj, longest_cons_cons]

namespace Table

variable {m n : Nat} {t : Table m n} {a b : List String}

theorem index_div {i j : Nat} (hj : j ≤ n) : index n i j / (n + 1) = i := by
  have hcolumn : j / (n + 1) = 0 := Nat.div_eq_of_lt (Nat.lt_succ_of_le hj)
  rw [index, Nat.add_comm, Nat.add_mul_div_right _ _ (Nat.succ_pos n), hcolumn, Nat.zero_add]

theorem index_mod {i j : Nat} (hj : j ≤ n) : index n i j % (n + 1) = j := by
  rw [index, Nat.mul_add_mod_self_right, Nat.mod_eq_of_lt (Nat.lt_succ_of_le hj)]

theorem index_inj {i j i' j' : Nat} (hj : j ≤ n) (hj' : j' ≤ n)
    (h : index n i j = index n i' j') : i = i' ∧ j = j' := by
  constructor
  · rw [← index_div (i := i) hj, h, index_div hj']
  · rw [← index_mod (i := i) hj, h, index_mod hj']

theorem cell_zero {i j : Nat} (hi : i ≤ m) (hj : j ≤ n) : (zero : Table m n).cell i j hi hj = 0 :=
  Vector.getElem_replicate (index_lt hi hj)

/-- What is put into a cell stands in that cell and in no other. -/
theorem cell_put (t : Table m n) {i j i' j' : Nat} (hi : i ≤ m) (hj : j ≤ n) (hi' : i' ≤ m)
    (hj' : j' ≤ n) (v : Nat) :
    (t.put i j hi hj v).cell i' j' hi' hj' = if i' = i ∧ j' = j then v else t.cell i' j' hi' hj' := by
  refine (Vector.getElem_set (index_lt hi hj) (index_lt hi' hj')).trans ?_
  by_cases h : index n i j = index n i' j'
  · obtain ⟨rfl, rfl⟩ := index_inj hj hj' h
    simp
  · have hne : ¬(i' = i ∧ j' = j) := by
      rintro ⟨rfl, rfl⟩
      exact h rfl
    rw [if_neg h, if_neg hne]
    rfl

/-- The cells that are done hold what the recursion gives for the rest of both lists. -/
def Holds (t : Table m n) (a b : List String) (done : Nat → Nat → Prop) : Prop :=
  ∀ i j hi hj, done i j → t.cell i j hi hj = longest (a.drop i) (b.drop j)

theorem Holds.mono {done done' : Nat → Nat → Prop} (h : t.Holds a b done)
    (hd : ∀ i j, i ≤ m → j ≤ n → done' i j → done i j) : t.Holds a b done' :=
  fun i j hi hj hij => h i j hi hj (hd i j hi hj hij)

theorem Holds.put {done : Nat → Nat → Prop} (h : t.Holds a b done) {i j v : Nat} (hi : i ≤ m)
    (hj : j ≤ n) (hv : v = longest (a.drop i) (b.drop j)) :
    (t.put i j hi hj v).Holds a b fun i' j' => done i' j' ∨ i' = i ∧ j' = j := by
  intro i' j' hi' hj' hdone
  rw [cell_put]
  split
  · next he =>
    obtain ⟨rfl, rfl⟩ := he
    exact hv
  · next he => exact h i' j' hi' hj' (hdone.resolve_right he)

/-- A row is filled from right to left over the row below. The last column stands for empty rests
and needs no filling. -/
theorem Holds.fillRow {b : Vector String n} {i k : Nat} (hi : i < m) (ha : i < a.length)
    (hk : k ≤ n)
    (h : t.Holds a b.toList fun i' j' => i < i' ∨ i' = i ∧ k ≤ j' ∨ j' = n) :
    (fillRow a[i] b i hi k hk t).Holds a b.toList fun i' j' => i ≤ i' ∨ j' = n := by
  induction k generalizing t with
  | zero => exact h.mono fun i' j' _ _ hdone => by omega
  | succ k ih =>
    rw [Table.fillRow]
    apply ih
    have hb : k < b.toList.length := by
      rw [Vector.length_toList]
      exact hk
    have hget : b.get ⟨k, hk⟩ = b.toList[k] := (Vector.getElem_toList hb).symm
    have hdiagonal := h (i + 1) (k + 1) hi hk (by omega)
    have hbelow := h (i + 1) k hi (Nat.le_of_succ_le hk) (by omega)
    have hright := h i (k + 1) (Nat.le_of_lt hi) hk (by omega)
    have hput := h.put (Nat.le_of_lt hi) (Nat.le_of_succ_le hk) (longest_drop ha hb).symm
    rw [hget, hdiagonal, hbelow, hright]
    exact hput.mono fun i' j' _ _ hdone => by omega

theorem Holds.fillRows {a : Vector String m} {b : Vector String n} {k : Nat} (hk : k ≤ m)
    (h : t.Holds a.toList b.toList fun i' j' => k ≤ i' ∨ j' = n) :
    (fillRows a b k hk t).Holds a.toList b.toList fun _ _ => True := by
  induction k generalizing t with
  | zero => exact h.mono fun i' j' _ _ _ => by omega
  | succ k ih =>
    rw [Table.fillRows]
    apply ih
    have ha : k < a.toList.length := by
      rw [Vector.length_toList]
      exact hk
    have hget : a.get ⟨k, hk⟩ = a.toList[k] := (Vector.getElem_toList ha).symm
    rw [hget]
    exact Holds.fillRow hk ha (Nat.le_refl n) (h.mono fun i' j' _ _ hdone => by omega)

theorem holds_zero (a b : List String) : (zero : Table a.length b.length).Holds a b fun i j =>
    a.length ≤ i ∨ j = b.length := by
  intro i j hi hj hdone
  rw [cell_zero]
  rcases hdone with h | rfl
  · rw [List.drop_eq_nil_of_le h, longest_nil_left]
  · rw [List.drop_length, longest_nil_right]

/-- The cell of a row and a column speaks of the lines from there on. -/
theorem cell_ofLines (a b : List String) {i j : Nat} (hi : i ≤ a.length) (hj : j ≤ b.length) :
    (ofLines a b).cell i j hi hj = longest (a.drop i) (b.drop j) :=
  Holds.fillRows (a := ⟨a.toArray, by simp⟩) (b := ⟨b.toArray, by simp⟩) (Nat.le_refl _)
    (holds_zero a b) i j hi hj trivial

end Table

end WorkflowCheck.Diff
