import Mathlib.Data.List.Nodup
import WorkflowCheck.Proofs.FileTree.Reading
import WorkflowCheck.Proofs.Path

/-! The entries of a directory by their names. Distinct places have distinct names in it. -/

namespace WorkflowCheck.FileTree

/-- There is an entry of this name in the directory that a path leads to. -/
def Lies (t : FileTree) (directory name : Bytes) : Prop :=
  ∃ place e, t.entry directory = .ok (place, .directory) ∧ (place ++ [name], e) ∈ t.entries

variable {t : FileTree} {path directory name : Bytes}

theorem isDirectory_eq_true :
    t.isDirectory path = true ↔ ∃ p, t.entry path = .ok (p, .directory) := by
  unfold isDirectory
  rcases t.entry path with cause | ⟨p, e⟩
  · simp
  · cases e <;> simp

theorem nameIn?_eq_some {p q : Place} : nameIn? p q = some name ↔ q = p ++ [name] := by
  unfold nameIn?
  rcases List.eq_nil_or_concat' q with rfl | ⟨above, last, rfl⟩
  · simp
  · rw [List.getLast?_concat, List.dropLast_concat]
    simp [and_comm]

theorem mem_names {p : Place} : name ∈ t.names p ↔ ∃ e, (p ++ [name], e) ∈ t.entries := by
  simp [names, List.mem_filterMap, nameIn?_eq_some]

theorem nodup_names (t : FileTree) (p : Place) : (t.names p).Nodup := by
  have hplaces : t.names p = (t.entries.map (·.1)).filterMap (nameIn? p) := by
    rw [List.filterMap_map]
    rfl
  rw [hplaces]
  refine List.Nodup.filterMap ?_ t.distinct
  intro a a' name ha ha'
  rw [Option.mem_def, nameIn?_eq_some] at ha ha'
  rw [ha, ha']

theorem list_of_entry {p : Place} (h : t.entry path = .ok (p, .directory)) :
    t.list path = .ok (t.names p) := by
  rw [list, h]
  rfl

theorem lies_iff_mem_names {p : Place} (h : t.entry directory = .ok (p, .directory)) :
    t.Lies directory name ↔ name ∈ t.names p := by
  rw [mem_names]
  constructor
  · rintro ⟨p', e, hp', he⟩
    cases h.symm.trans hp'
    exact ⟨e, he⟩
  · rintro ⟨e, he⟩
    exact ⟨p, e, h, he⟩

theorem Lies.isName (h : t.Lies directory name) : Path.IsName name := by
  obtain ⟨place, e, -, he⟩ := h
  exact t.named _ he name (List.mem_append_right _ List.mem_cons_self)

end WorkflowCheck.FileTree
