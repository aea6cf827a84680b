import WorkflowCheck.Proofs.Discovery
import WorkflowCheck.Proofs.FileTree.Names

/-! How a document is chosen. The entries of a directory come in the strict order of their names, so
the first document among them is the one with the least name. -/

namespace WorkflowCheck.Discovery

/-- An entry of a directory that may be its input document. -/
structure Qualifies (t : FileTree) (directory name : Bytes) : Prop where
  lies : t.Lies directory name
  file : t.isFile (Path.join directory name) = true
  text : ∃ text, name = Text.encode text
  ending : Text.encode ".yml" <:+ name ∨ Text.encode ".yaml" <:+ name

structure Chosen (t : FileTree) (directory name : Bytes) : Prop where
  qualifies : Qualifies t directory name
  least : ∀ other, Qualifies t directory other → name ≤ other

variable {t : FileTree} {directory name path : Bytes} {names : List Bytes}

theorem Chosen.unique {other : Bytes} (h : Chosen t directory name) (h' : Chosen t directory other) :
    name = other :=
  List.le_antisymm (h.least _ h'.qualifies) (h'.least _ h.qualifies)

theorem isYamlName_eq_true : isYamlName name = true ↔
    (∃ text, name = Text.encode text) ∧
      (Text.encode ".yml" <:+ name ∨ Text.encode ".yaml" <:+ name) := by
  simp [isYamlName, yamlEndings, Option.isSome_iff_exists, Text.decode?_eq_some]

theorem pairwise_sortNames (h : names.Nodup) : (sortNames names).Pairwise (· < ·) := by
  have hsorted : (sortNames names).Pairwise (· ≤ ·) := by
    have hle : (sortNames names).Pairwise fun a b => decide (a ≤ b) = true := by
      refine List.pairwise_mergeSort ?_ ?_ names
      · intro a b c hab hbc
        exact decide_eq_true (List.le_trans (of_decide_eq_true hab) (of_decide_eq_true hbc))
      · intro a b
        simpa using List.le_total a b
    exact hle.imp of_decide_eq_true
  have hdistinct : (sortNames names).Nodup := (List.mergeSort_perm names _).nodup_iff.mpr h
  exact hsorted.imp₂ (fun _ _ => Std.lt_of_le_of_ne) hdistinct

/-- The entries of a directory are those that lie in it, in the order of their names. -/
theorem exists_entries (h : t.isDirectory directory = true) :
    ∃ names : List Bytes, entries t directory = .ok (names.map (Path.join directory)) ∧
      names.Pairwise (· < ·) ∧ ∀ name, name ∈ names ↔ t.Lies directory name := by
  obtain ⟨p, hp⟩ := FileTree.isDirectory_eq_true.mp h
  refine ⟨sortNames (t.names p), ?_, pairwise_sortNames (t.nodup_names p), fun name => ?_⟩
  · rw [entries, FileTree.list_of_entry hp]
  · rw [FileTree.lies_iff_mem_names hp]
    exact List.mem_mergeSort

theorem isDocument_join (h : t.Lies directory name) :
    isDocument t (Path.join directory name) = true ↔ Qualifies t directory name := by
  rw [isDocument, Path.fileName_join h.isName, Bool.and_eq_true, Option.map_some,
    Option.getD_some, isYamlName_eq_true]
  constructor
  · rintro ⟨hfile, htext, hending⟩
    exact ⟨h, hfile, htext, hending⟩
  · rintro ⟨-, hfile, htext, hending⟩
    exact ⟨hfile, htext, hending⟩

section

variable (hd : t.isDirectory directory = true)

include hd

/-- The documents of a directory in the order of their names, of which the first one is taken. -/
theorem exists_documents : ∃ names : List Bytes, names.Pairwise (· < ·) ∧
    (∀ name, name ∈ names ↔ Qualifies t directory name) ∧
    (select t directory).result = match names with
      | [] => .error (.missingDocument directory)
      | name :: _ => .ok (Path.join directory name) := by
  obtain ⟨names, hentries, hordered, hmem⟩ := exists_entries hd
  refine ⟨names.filter (isDocument t ∘ Path.join directory), hordered.filter _, fun name => ?_, ?_⟩
  · rw [List.mem_filter, hmem]
    exact ⟨fun ⟨hlies, h⟩ => (isDocument_join hlies).mp h,
      fun h => ⟨h.lies, (isDocument_join h.lies).mpr h⟩⟩
  · simp only [select, hentries, List.filter_map]
    rcases names.filter (isDocument t ∘ Path.join directory) with _ | ⟨name, _ | ⟨other, rest⟩⟩ <;> rfl

theorem select_eq_ok {path : Bytes} : (select t directory).result = .ok path ↔
    ∃ name, Chosen t directory name ∧ path = Path.join directory name := by
  obtain ⟨names, hordered, hmem, hselect⟩ := exists_documents hd
  rw [hselect]
  cases hordered with
  | nil =>
    simp only [reduceCtorEq, false_iff]
    rintro ⟨name, hname, -⟩
    exact absurd ((hmem name).mpr hname.qualifies) List.not_mem_nil
  | @cons name rest hfirst _ =>
    have hchosen : Chosen t directory name := by
      refine ⟨(hmem name).mp List.mem_cons_self, fun other hother => ?_⟩
      rcases List.mem_cons.mp ((hmem other).mpr hother) with rfl | hrest
      · exact List.le_refl _
      · exact List.le_of_lt (hfirst _ hrest)
    rw [Except.ok.injEq]
    constructor
    · rintro rfl
      exact ⟨name, hchosen, rfl⟩
    · rintro ⟨other, hother, rfl⟩
      rw [hchosen.unique hother]

theorem select_eq_error {failure : Failure} : (select t directory).result = .error failure ↔
    (∀ name, ¬ Qualifies t directory name) ∧ failure = .missingDocument directory := by
  obtain ⟨names, -, hmem, hselect⟩ := exists_documents hd
  rw [hselect]
  simp only [← hmem]
  cases names with
  | nil => simp [eq_comm]
  | cons name rest => exact ⟨nofun, fun h => absurd List.mem_cons_self (h.1 name)⟩

end

end WorkflowCheck.Discovery
