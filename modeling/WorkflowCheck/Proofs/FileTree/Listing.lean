import Mathlib.Data.List.Sort
import WorkflowCheck.Proofs.FileTree.Names

/-! The order in which directories list their entries. Trees with the same entry at every place
differ in it alone. Paths lead to the same entries in all of them, and every order in which the
directories of a tree can list their names is that of one of them. -/

namespace WorkflowCheck.FileTree

/-- The trees have the same entry at every place, in whatever order. -/
structure SameEntries (t u : FileTree) : Prop where
  working : t.working = u.working
  at? : ∀ p, t.at? p = u.at? p

variable {t u : FileTree}

theorem at?_eq_some {p : Place} (hp : p ≠ []) {e : Entry} :
    t.at? p = some e ↔ (p, e) ∈ t.entries := by
  refine ⟨mem_entries_of_at? hp, fun h => ?_⟩
  cases hat : t.at? p with
  | none =>
    rw [FileTree.at?, if_neg hp, List.lookup_eq_none_iff] at hat
    simpa using hat _ h
  | some e' => rw [eq_of_mem_entries h (mem_entries_of_at? hp hat)]

theorem sameEntries_of_perm (hworking : t.working = u.working) (h : t.entries.Perm u.entries) :
    t.SameEntries u := by
  refine ⟨hworking, fun p => ?_⟩
  by_cases hp : p = []
  · simp [FileTree.at?, hp]
  · exact Option.ext fun e => by rw [at?_eq_some hp, at?_eq_some hp, h.mem_iff]

namespace SameEntries

variable (h : t.SameEntries u)

include h

theorem walk (follow : Bool) (links : Nat) (place : Place) (steps : List Bytes) :
    u.walk follow links place steps = t.walk follow links place steps := by
  fun_induction t.walk follow links place steps <;> rw [FileTree.walk] <;> grind [h.at?]

theorem entry (path : Bytes) : u.entry path = t.entry path := by
  simp only [FileTree.entry, arrive, start, h.walk, h.at?, h.working]

theorem isDirectory : u.isDirectory = t.isDirectory := by
  funext path
  simp only [FileTree.isDirectory, h.entry]

theorem isFile : u.isFile = t.isFile := by
  funext path
  simp only [FileTree.isFile, h.entry]

theorem readText : u.readText = t.readText := by
  funext path
  simp only [FileTree.readText, read, h.entry]

theorem names (p : Place) : (u.names p).Perm (t.names p) := by
  refine (List.perm_ext_iff_of_nodup (nodup_names u p) (nodup_names t p)).mpr fun name => ?_
  simp only [mem_names, ← at?_eq_some (List.concat_ne_nil _ _), h.at?]

end SameEntries

section

variable (order : Place → List Bytes)

/-- The position of an entry in the order that its directory is to be listed in. -/
def rank (e : Place × Entry) : Nat :=
  match e.1.getLast? with
  | some name => (order e.1.dropLast).idxOf name
  | none => 0

/-- The same tree, with directories listed in the given order. -/
def reorder (t : FileTree) : FileTree :=
  { t with
    entries := t.entries.mergeSort fun a b => rank order a ≤ rank order b
    distinct := ((t.entries.mergeSort_perm _).map _).nodup_iff.mpr t.distinct
    named := fun e he => t.named e (List.mem_mergeSort.mp he) }

theorem sameEntries_reorder (t : FileTree) : t.SameEntries (t.reorder order) :=
  sameEntries_of_perm rfl (t.entries.mergeSort_perm _).symm

theorem pairwise_idxOf {α : Type} [BEq α] [LawfulBEq α] {l : List α} (h : l.Nodup) :
    l.Pairwise fun a b => l.idxOf a ≤ l.idxOf b := by
  rw [List.pairwise_iff_getElem]
  intro i j hi hj hij
  rw [h.idxOf_getElem, h.idxOf_getElem]
  exact Nat.le_of_lt hij

theorem rank_of_nameIn? {directory : Place} {e : Place × Entry} {name : Bytes}
    (h : nameIn? directory e.1 = some name) : rank order e = (order directory).idxOf name := by
  rw [rank, nameIn?_eq_some.mp h]
  simp

theorem pairwise_names_reorder (t : FileTree) (p : Place) :
    ((t.reorder order).names p).Pairwise fun a b => (order p).idxOf a ≤ (order p).idxOf b := by
  have hranks : (t.reorder order).entries.Pairwise fun a b => rank order a ≤ rank order b := by
    have hsorted : (t.reorder order).entries.Pairwise fun a b =>
        decide (rank order a ≤ rank order b) = true :=
      List.pairwise_mergeSort (by simp; omega) (by simp; omega) t.entries
    exact hsorted.imp of_decide_eq_true
  refine hranks.filterMap _ fun a b hab name hname name' hname' => ?_
  rwa [rank_of_nameIn? order hname, rank_of_nameIn? order hname'] at hab

theorem names_reorder {p : Place} (h : (order p).Perm (t.names p)) :
    (t.reorder order).names p = order p := by
  have hnodup : (order p).Nodup := h.nodup_iff.mpr (nodup_names t p)
  have hperm := ((sameEntries_reorder order t).names p).trans h.symm
  refine hperm.eq_of_pairwise ?_ (pairwise_names_reorder order t p) (pairwise_idxOf hnodup)
  intro a b ha _ hab hba
  exact (List.idxOf_inj (hperm.subset ha)).mp (Nat.le_antisymm hab hba)

end

end WorkflowCheck.FileTree
