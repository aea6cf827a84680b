import Mathlib
import WorkflowCheck.Proofs.Discovery.Selection
import WorkflowCheck.Proofs.FileTree.Listing

/-! Discovery does not depend on the order in which directories list their entries: names are sorted
before anything else looks at them. -/

namespace WorkflowCheck.Discovery

open FileTree

theorem sortNames_eq_of_perm {names names' : List Bytes} (h : names.Perm names')
    (hnodup : names.Nodup) : sortNames names = sortNames names' := by
  have hperm : (sortNames names).Perm (sortNames names') :=
    ((names.mergeSort_perm _).trans h).trans (names'.mergeSort_perm _).symm
  refine hperm.eq_of_pairwise ?_ (pairwise_sortNames hnodup)
    (pairwise_sortNames (h.nodup_iff.mp hnodup))
  exact fun a b _ _ hab hba => absurd hba (List.lt_asymm hab)

section

variable {t u : FileTree} (h : t.SameEntries u)

include h

theorem entries_eq : entries u = entries t := by
  funext directory
  cases he : t.entry directory with
  | error cause => simp only [entries, list, h.entry, he, bind, Except.bind]
  | ok found =>
    obtain ⟨p, _ | _ | _⟩ := found
    · have hu := (h.entry directory).trans he
      have hnames : sortNames (u.names p) = sortNames (t.names p) :=
        sortNames_eq_of_perm (h.names p) (nodup_names u p)
      simp only [entries, list_of_entry hu, list_of_entry he, hnames]
    · simp [entries, list, h.entry, he]
    · simp [entries, list, h.entry, he]

theorem select_eq : select u = select t := by
  have hdocument : isDocument u = isDocument t := by
    funext path
    simp only [isDocument, h.isFile]
  funext directory
  simp only [select, entries_eq h, hdocument]

theorem fixture_eq : fixture u = fixture t := by
  have hread : readCase u = readCase t := by
    funext document snapshot
    simp only [readCase, readText, h.readText]
  funext snapshotFile directory
  simp only [fixture, select_eq h, hread]

theorem fixtures_eq (snapshotFile : Bytes) (directories : List Bytes) :
    fixtures u snapshotFile directories = fixtures t snapshotFile directories := by
  induction directories with
  | nil => rfl
  | cons directory rest ih => simp only [fixtures, fixture_eq h, ih]

theorem discover_eq : discover u = discover t := by
  funext root snapshotFile
  simp only [discover, h.isDirectory, entries_eq h, fixtures_eq h]

end

/-- Whatever orders the directories of a tree list their entries in, discovery finds the same cases
or comes to the same failure, with the same notices, and each directory has the same document. All
orders are those of some tree. -/
theorem listing_order_irrelevant (t : FileTree) :
    (∀ order : Place → List Bytes, (∀ p, (order p).Perm (t.names p)) →
      ∃ u, t.SameEntries u ∧ ∀ p, u.names p = order p) ∧
    ∀ u, t.SameEntries u → (∀ root snapshotFile,
        discover u root snapshotFile = discover t root snapshotFile) ∧
      ∀ directory, select u directory = select t directory := by
  refine ⟨fun order horder => ?_, fun u h => ⟨fun root snapshotFile => ?_, fun directory => ?_⟩⟩
  · exact ⟨t.reorder order, sameEntries_reorder order t, fun p => names_reorder order (horder p)⟩
  · rw [discover_eq h]
  · rw [select_eq h]

namespace Shuffled

def entries : List (Place × Entry) :=
  [("r", .directory), ("r/a", .directory), ("r/b", .directory), ("r/a/s", .file []),
    ("r/a/x.yml", .file []), ("r/a/y.yml", .file [])].map
    fun e => (Path.split (Text.encode e.1), e.2)

def tree : FileTree := { entries := entries, working := [] }

def reversed : FileTree := { entries := entries.reverse, working := [] }

end Shuffled

theorem shuffled_listing_selects_alike : Shuffled.tree.SameEntries Shuffled.reversed ∧
    Shuffled.reversed.names [Text.encode "r"] ≠ Shuffled.tree.names [Text.encode "r"] ∧
      discover Shuffled.reversed (Text.encode "r") (Text.encode "s") =
        discover Shuffled.tree (Text.encode "r") (Text.encode "s") ∧
      (select Shuffled.reversed (Text.encode "r/a")).result = .ok (Text.encode "r/a/x.yml") := by
  have hsame : Shuffled.tree.SameEntries Shuffled.reversed :=
    sameEntries_of_perm rfl (List.reverse_perm _).symm
  have hselect : (select Shuffled.tree (Text.encode "r/a")).result =
      .ok (Text.encode "r/a/x.yml") := by cbv
  obtain ⟨hdiscover, hdocument⟩ := (listing_order_irrelevant Shuffled.tree).2 _ hsame
  refine ⟨hsame, by decide_cbv, hdiscover _ _, ?_⟩
  rw [hdocument, hselect]

end WorkflowCheck.Discovery
