import Mathlib.Data.List.Nodup
import Mathlib.Data.String.Basic
import WorkflowCheck.Value

/-! Values as they are once they have been brought into order: in every object each key stands
once, and the keys ascend. A look-up then finds the one entry of a key. -/

namespace WorkflowCheck.Value

def Ascending {α : Type} (entries : List (String × α)) : Prop :=
  (entries.map (·.1)).Pairwise (· < ·)

mutual

def Ordered : Value → Prop
  | .array items => OrderedItems items
  | .object entries => Ascending entries ∧ OrderedEntries entries
  | .null | .boolean _ | .number _ | .string _ => True

def OrderedItems : List Value → Prop
  | [] => True
  | v :: rest => v.Ordered ∧ OrderedItems rest

def OrderedEntries : List (String × Value) → Prop
  | [] => True
  | (_, v) :: rest => v.Ordered ∧ OrderedEntries rest

end

theorem orderedEntries_iff {entries : List (String × Value)} :
    OrderedEntries entries ↔ ∀ e ∈ entries, e.2.Ordered := by
  induction entries with
  | nil => simp [OrderedEntries]
  | cons e rest ih => rw [OrderedEntries, ih, List.forall_mem_cons]

section

variable {α : Type} {entries : List (String × α)} {key : String} {value : α}

theorem ascending_nil : Ascending ([] : List (String × α)) := List.Pairwise.nil

theorem Ascending.lookup_eq_some (h : Ascending entries) :
    entries.lookup key = some value ↔ (key, value) ∈ entries := by
  induction entries with
  | nil => simp
  | cons e rest ih =>
    obtain ⟨hlt, hrest⟩ := List.pairwise_cons.mp h
    rw [List.lookup_cons, List.mem_cons]
    by_cases hk : key = e.1
    · subst hk
      have hnot : (e.1, value) ∉ rest := fun hm =>
        lt_irrefl _ (hlt e.1 (List.mem_map_of_mem (f := (·.1)) hm))
      simp [hnot, Prod.ext_iff, eq_comm]
    · have hne : (key, value) ≠ e := fun he => hk (congrArg Prod.fst he)
      simp [beq_false_of_ne hk, hne, ih hrest]

theorem mem_insertEntry {e : String × α} (h : e ∈ insertEntry key value entries) :
    e = (key, value) ∨ e ∈ entries := by
  induction entries with
  | nil => exact .inl (List.mem_singleton.mp h)
  | cons e' rest ih =>
    unfold insertEntry at h
    split_ifs at h with hlt heq
    · exact List.mem_cons.mp h
    · rcases List.mem_cons.mp h with h | h
      · exact .inl h
      · exact .inr (List.mem_cons_of_mem _ h)
    · rcases List.mem_cons.mp h with h | h
      · exact .inr (h ▸ List.mem_cons_self)
      · rcases ih h with h | h
        · exact .inl h
        · exact .inr (List.mem_cons_of_mem _ h)

theorem Ascending.insertEntry (h : Ascending entries) (key : String) (value : α) :
    Ascending (insertEntry key value entries) := by
  induction entries with
  | nil => exact List.pairwise_singleton _ _
  | cons e rest ih =>
    obtain ⟨hlt, hrest⟩ := List.pairwise_cons.mp h
    unfold Value.insertEntry
    split_ifs with hk heq
    · refine List.pairwise_cons.mpr ⟨?_, h⟩
      intro k hm
      rcases List.mem_cons.mp hm with rfl | hm
      · exact hk
      · exact hk.trans (hlt k hm)
    · subst heq
      exact h
    · refine List.pairwise_cons.mpr ⟨?_, ih hrest⟩
      intro k hm
      obtain ⟨e', he', rfl⟩ := List.mem_map.mp hm
      rcases mem_insertEntry he' with rfl | he'
      · exact lt_of_le_of_ne (not_lt.mp hk) (Ne.symm heq)
      · exact hlt _ (List.mem_map_of_mem he')

theorem Ascending.foldl_insertEntry {m : List (String × α)} (hm : Ascending m)
    (rest : List (String × α)) :
    let n := rest.foldl (fun m e => Value.insertEntry e.1 e.2 m) m
    Ascending n ∧ ∀ e ∈ n, e ∈ m ∨ e ∈ rest := by
  induction rest generalizing m with
  | nil => exact ⟨hm, fun e he => .inl he⟩
  | cons e rest ih =>
    obtain ⟨hasc, hsub⟩ := ih (hm.insertEntry e.1 e.2)
    refine ⟨hasc, ?_⟩
    intro e' he'
    rcases hsub e' he' with he' | he'
    · rcases mem_insertEntry he' with rfl | he'
      · exact .inr List.mem_cons_self
      · exact .inl he'
    · exact .inr (List.mem_cons_of_mem _ he')

theorem ascending_sortEntries (entries : List (String × α)) : Ascending (sortEntries entries) :=
  (ascending_nil.foldl_insertEntry entries).1

theorem mem_of_mem_sortEntries {e : String × α} (h : e ∈ sortEntries entries) : e ∈ entries := by
  rcases (ascending_nil.foldl_insertEntry entries).2 e h with h | h
  · exact absurd h List.not_mem_nil
  · exact h

end

mutual

theorem ordered_sorted : ∀ v : Value, v.sorted.Ordered
  | .array items => by
    rw [sorted, Ordered]
    exact orderedItems_sortedItems items
  | .object entries => by
    have hall := orderedEntries_iff.mp (orderedEntries_sortedEntries entries)
    rw [sorted, Ordered]
    refine ⟨ascending_sortEntries _, orderedEntries_iff.mpr fun e he => ?_⟩
    exact hall e (mem_of_mem_sortEntries he)
  | .null | .boolean _ | .number _ | .string _ => by simp only [sorted, Ordered]

theorem orderedItems_sortedItems : ∀ items : List Value, OrderedItems (sortedItems items)
  | [] => by simp only [sortedItems, OrderedItems]
  | v :: rest => by
    rw [sortedItems, OrderedItems]
    exact ⟨ordered_sorted v, orderedItems_sortedItems rest⟩

theorem orderedEntries_sortedEntries :
    ∀ entries : List (String × Value), OrderedEntries (sortedEntries entries)
  | [] => by simp only [sortedEntries, OrderedEntries]
  | (_, v) :: rest => by
    rw [sortedEntries, OrderedEntries]
    exact ⟨ordered_sorted v, orderedEntries_sortedEntries rest⟩

end

end WorkflowCheck.Value
