import WorkflowCheck.Discovery
import WorkflowCheck.Proofs.FileTree.Reading

/-! What discovery finds, without its notices: one case for each directory under the root, in the
order of their names. Other contents of files change the texts of cases only. -/

namespace WorkflowCheck

def FixtureCase.withSnapshot (case : FixtureCase) (text : String) : FixtureCase :=
  { case with snapshotText := text }

namespace Discovery

/-- The case of one directory: its selected document and its snapshot, with their texts. -/
structure Found (t : FileTree) (snapshotFile directory : Bytes) (case : FixtureCase) : Prop where
  selected : (select t directory).result = .ok case.document
  snapshot : case.snapshot = Path.join directory snapshotFile
  documentText : t.readText case.document = .ok case.documentText
  snapshotText : t.readText case.snapshot = .ok case.snapshotText

section

variable {t : FileTree} {snapshotFile : Bytes}

theorem readText_eq_ok {path : Bytes} {text : String} :
    readText t path = .ok text ↔ t.readText path = .ok text := by
  unfold readText
  cases t.readText path <;> simp

theorem readCase_eq_ok {document snapshot : Bytes} {case : FixtureCase} :
    readCase t document snapshot = .ok case ↔
      case.document = document ∧ case.snapshot = snapshot ∧
        t.readText document = .ok case.documentText ∧ t.readText snapshot = .ok case.snapshotText := by
  simp only [readCase, bind_eq_ok, readText_eq_ok, pure, Except.pure, Except.ok.injEq]
  constructor
  · rintro ⟨documentText, hd, snapshotText, hs, rfl⟩
    exact ⟨rfl, rfl, hd, hs⟩
  · rintro ⟨rfl, rfl, hd, hs⟩
    exact ⟨_, hd, _, hs, rfl⟩

theorem fixture_result (directory : Bytes) :
    (fixture t snapshotFile directory).result =
      (select t directory).result >>= fun document =>
        readCase t document (Path.join directory snapshotFile) := by
  unfold fixture
  dsimp only
  cases (select t directory).result with
  | error failure => rfl
  | ok document =>
    dsimp only [ok_bind]
    cases readCase t document (Path.join directory snapshotFile) <;> rfl

theorem fixture_eq_ok {directory : Bytes} {case : FixtureCase} :
    (fixture t snapshotFile directory).result = .ok case ↔ Found t snapshotFile directory case := by
  simp only [fixture_result, bind_eq_ok, readCase_eq_ok]
  constructor
  · rintro ⟨document, hs, rfl, hp, hd, ht⟩
    exact ⟨hs, hp, hd, hp ▸ ht⟩
  · rintro ⟨hs, hp, hd, ht⟩
    exact ⟨_, hs, rfl, hp, hd, hp ▸ ht⟩

theorem fixtures_cons_result (directory : Bytes) (rest : List Bytes) :
    (fixtures t snapshotFile (directory :: rest)).result =
      (fixture t snapshotFile directory).result >>= fun case =>
        (fixtures t snapshotFile rest).result >>= fun others => .ok (case :: others) := by
  rw [fixtures]
  dsimp only
  cases (fixture t snapshotFile directory).result with
  | error failure => rfl
  | ok case => cases (fixtures t snapshotFile rest).result <;> rfl

theorem fixtures_eq_ok {directories : List Bytes} {cases : List FixtureCase} :
    (fixtures t snapshotFile directories).result = .ok cases ↔
      List.Forall₂ (Found t snapshotFile) directories cases := by
  induction directories generalizing cases with
  | nil => simp [fixtures, eq_comm]
  | cons directory rest ih =>
    simp only [fixtures_cons_result, bind_eq_ok, fixture_eq_ok, ih, Except.ok.injEq,
      List.forall₂_cons_left_iff]
    constructor
    · rintro ⟨case, hc, others, ho, rfl⟩
      exact ⟨case, others, hc, ho, rfl⟩
    · rintro ⟨case, others, hc, ho, rfl⟩
      exact ⟨case, hc, others, ho, rfl⟩

theorem discover_eq_ok {root : Bytes} {cases : List FixtureCase} :
    (discover t root snapshotFile).result = .ok cases ↔
      t.isDirectory root = true ∧ ∃ paths, entries t root = .ok paths ∧
        List.Forall₂ (Found t snapshotFile) (paths.filter t.isDirectory) cases := by
  unfold discover
  cases hd : t.isDirectory root with
  | false => simp [Finding.fail]
  | true =>
    cases he : entries t root with
    | error failure => simp [Finding.fail]
    | ok paths => simp [fixtures_eq_ok]

theorem exists_found_of_mem {root : Bytes} {cases : List FixtureCase}
    (h : (discover t root snapshotFile).result = .ok cases) {c : FixtureCase} (hc : c ∈ cases) :
    ∃ directory, Found t snapshotFile directory c := by
  obtain ⟨-, paths, -, hf⟩ := discover_eq_ok.mp h
  generalize paths.filter t.isDirectory = directories at hf
  clear h
  induction hf with
  | nil => simp at hc
  | cons hd _ ih =>
    rcases List.mem_cons.mp hc with rfl | hc
    · exact ⟨_, hd⟩
    · exact ih hc

end

section

variable (t : FileTree) (f : Place → Bytes → Bytes)

theorem entries_refill (directory : Bytes) : entries (t.refill f) directory = entries t directory := by
  simp only [entries, FileTree.list_refill]

theorem isDocument_refill (path : Bytes) : isDocument (t.refill f) path = isDocument t path := by
  simp only [isDocument, FileTree.isFile_refill]

theorem select_refill (directory : Bytes) : select (t.refill f) directory = select t directory := by
  have hd : isDocument (t.refill f) = isDocument t := funext (isDocument_refill t f)
  simp only [select, entries_refill, hd]

variable {t f} {snapshotFile : Bytes} {directories : List Bytes} {cases cases' : List FixtureCase}

theorem forall₂_found_refill (h : List.Forall₂ (Found t snapshotFile) directories cases)
    (text : FixtureCase → String)
    (hd : ∀ c ∈ cases, (t.refill f).readText c.document = .ok c.documentText)
    (hs : ∀ c ∈ cases, (t.refill f).readText c.snapshot = .ok (text c)) :
    List.Forall₂ (Found (t.refill f) snapshotFile) directories
      (cases.map fun c => c.withSnapshot (text c)) := by
  induction h with
  | nil => exact .nil
  | cons hc _ ih =>
    simp only [List.forall_mem_cons] at hd hs
    refine .cons ⟨?_, hc.snapshot, hd.1, hs.1⟩ (ih hd.2 hs.2)
    rw [select_refill]
    exact hc.selected

theorem discover_refill {root : Bytes} (h : (discover t root snapshotFile).result = .ok cases)
    (text : FixtureCase → String)
    (hd : ∀ c ∈ cases, (t.refill f).readText c.document = .ok c.documentText)
    (hs : ∀ c ∈ cases, (t.refill f).readText c.snapshot = .ok (text c)) :
    (discover (t.refill f) root snapshotFile).result =
      .ok (cases.map fun c => c.withSnapshot (text c)) := by
  have hdir : (t.refill f).isDirectory = t.isDirectory := funext (FileTree.isDirectory_refill t f)
  obtain ⟨hroot, paths, he, hf⟩ := discover_eq_ok.mp h
  refine discover_eq_ok.mpr ⟨hdir ▸ hroot, paths, entries_refill t f root ▸ he, ?_⟩
  rw [hdir]
  exact forall₂_found_refill hf text hd hs

/-- Two trees with the same documents have the same cases but for the stored snapshots. -/
theorem map_withSnapshot_of_refill {root : Bytes} (text : String)
    (h : (discover t root snapshotFile).result = .ok cases)
    (h' : (discover (t.refill f) root snapshotFile).result = .ok cases')
    (hd : ∀ c ∈ cases, (t.refill f).readText c.document = .ok c.documentText) :
    cases'.map (·.withSnapshot text) = cases.map (·.withSnapshot text) := by
  obtain ⟨-, paths, he, hf⟩ := discover_eq_ok.mp h
  obtain ⟨-, paths', he', hf'⟩ := discover_eq_ok.mp h'
  obtain rfl : paths = paths' := by simpa [entries_refill, he] using he'
  rw [funext (FileTree.isDirectory_refill t f)] at hf'
  generalize paths.filter t.isDirectory = directories at hf hf'
  clear h h' he he'
  induction hf generalizing cases' with
  | nil => simp [List.forall₂_nil_left_iff.mp hf']
  | @cons _ c _ rest hc _ ih =>
    obtain ⟨c', rest', hc', hr', rfl⟩ := List.forall₂_cons_left_iff.mp hf'
    simp only [List.forall_mem_cons] at hd
    have hdoc : c'.document = c.document := by
      simpa [select_refill, hc.selected, eq_comm] using hc'.selected
    have htext := hc'.documentText
    rw [hdoc, hd.1, Except.ok.injEq] at htext
    rw [List.map_cons, List.map_cons, ih hd.2 hr']
    simp [FixtureCase.withSnapshot, hdoc, htext, hc.snapshot, hc'.snapshot]

end

end Discovery

end WorkflowCheck
