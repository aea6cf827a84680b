import WorkflowCheck.Proofs.Discovery.Selection
import WorkflowCheck.Proofs.Run.Extent

/-! When discovery succeeds and with what, and what it fails with otherwise: the first directory that
lacks something ends the search, and a run then does nothing at all. -/

namespace WorkflowCheck

namespace Discovery

/-- A path leads to a file that holds a text. -/
def Readable (t : FileTree) (path : Bytes) : Prop := ∃ text, t.read path = .ok (Text.encode text)

/-- A name under the root that stands for a case: it leads to a directory. -/
structure CaseName (t : FileTree) (root name : Bytes) : Prop where
  lies : t.Lies root name
  isDirectory : t.isDirectory (Path.join root name) = true

/-- The directory has a document and a snapshot, and both can be read. -/
structure Complete (t : FileTree) (snapshotFile directory : Bytes) : Prop where
  document : ∃ name, Chosen t directory name ∧ Readable t (Path.join directory name)
  snapshot : Readable t (Path.join directory snapshotFile)

/-- The case that is made of a directory. -/
structure CaseOf (t : FileTree) (snapshotFile directory : Bytes) (c : FixtureCase) : Prop where
  document : ∃ name, Chosen t directory name ∧ c.document = Path.join directory name
  snapshot : c.snapshot = Path.join directory snapshotFile
  documentText : t.read c.document = .ok (Text.encode c.documentText)
  snapshotText : t.read c.snapshot = .ok (Text.encode c.snapshotText)

/-- What is wrong with a directory. A document that is missing counts before one that cannot be
read, and that before a snapshot that cannot be read. -/
inductive Fault (t : FileTree) (snapshotFile directory : Bytes) : Failure → Prop
  | missing (h : ∀ name, ¬ Qualifies t directory name) :
    Fault t snapshotFile directory (.missingDocument directory)
  | document {name : Bytes} {cause : IoFault} (h : Chosen t directory name)
    (hdocument : t.readText (Path.join directory name) = .error cause) :
    Fault t snapshotFile directory (.io (Path.join directory name) cause)
  | snapshot {name : Bytes} {cause : IoFault} (h : Chosen t directory name)
    (hdocument : Readable t (Path.join directory name))
    (hsnapshot : t.readText (Path.join directory snapshotFile) = .error cause) :
    Fault t snapshotFile directory (.io (Path.join directory snapshotFile) cause)

/-- What is wrong with the root, or else with the first of its cases that is not complete. -/
inductive FirstFault (t : FileTree) (root snapshotFile : Bytes) : Failure → Prop
  | root (h : t.isDirectory root = false) : FirstFault t root snapshotFile (.notADirectory root)
  | case {name : Bytes} {failure : Failure} (hroot : t.isDirectory root = true)
    (hname : CaseName t root name)
    (hearlier : ∀ earlier, CaseName t root earlier → earlier < name →
      Complete t snapshotFile (Path.join root earlier))
    (hfault : Fault t snapshotFile (Path.join root name) failure) :
    FirstFault t root snapshotFile failure

variable {t : FileTree} {root snapshotFile directory path : Bytes} {c : FixtureCase}
  {failure : Failure}

theorem readable_iff : Readable t path ↔ ∃ text, t.readText path = .ok text := by
  simp only [Readable, FileTree.readText_eq_ok]

theorem readText_eq_error :
    readText t path = .error failure ↔ ∃ cause, t.readText path = .error cause ∧
      failure = .io path cause := by
  unfold readText
  cases t.readText path <;> simp [eq_comm]

theorem readCase_eq_error {document snapshot : Bytes} :
    readCase t document snapshot = .error failure ↔
      (∃ cause, t.readText document = .error cause ∧ failure = .io document cause) ∨
        Readable t document ∧ ∃ cause, t.readText snapshot = .error cause ∧
          failure = .io snapshot cause := by
  simp only [readCase, bind_eq_error, readText_eq_error, readText_eq_ok, readable_iff, pure,
    Except.pure, reduceCtorEq, and_false, exists_false, or_false, exists_and_right]

theorem fixtures_eq_error {directories : List Bytes} :
    (fixtures t snapshotFile directories).result = .error failure ↔
      ∃ before directory after, directories = before ++ directory :: after ∧
        (∀ d ∈ before, ∃ c, Found t snapshotFile d c) ∧
        (fixture t snapshotFile directory).result = .error failure := by
  induction directories with
  | nil => simp [fixtures]
  | cons first rest ih =>
    simp only [fixtures_cons_result, bind_eq_error, fixture_eq_ok, ih, reduceCtorEq, and_false,
      exists_false, or_false]
    constructor
    -- The failure comes from the first directory, or else that one is one more before it.
    · rintro (hfirst | ⟨c, hc, before, directory, after, rfl, hbefore, hfailed⟩)
      · exact ⟨[], first, rest, rfl, List.forall_mem_nil _, hfirst⟩
      · exact ⟨first :: before, directory, after, rfl, List.forall_mem_cons.mpr ⟨⟨c, hc⟩, hbefore⟩,
          hfailed⟩
    · rintro ⟨before, directory, after, heq, hbefore, hfailed⟩
      cases before with
      | nil =>
        cases heq
        exact .inl hfailed
      | cons _ before =>
        cases heq
        obtain ⟨⟨c, hc⟩, hbefore⟩ := List.forall_mem_cons.mp hbefore
        exact .inr ⟨c, hc, before, directory, after, rfl, hbefore, hfailed⟩

section

variable (hd : t.isDirectory directory = true)

include hd

theorem found_iff_caseOf : Found t snapshotFile directory c ↔ CaseOf t snapshotFile directory c := by
  constructor
  · intro h
    exact ⟨(select_eq_ok hd).mp h.selected, h.snapshot, FileTree.readText_eq_ok.mp h.documentText,
      FileTree.readText_eq_ok.mp h.snapshotText⟩
  · intro h
    exact ⟨(select_eq_ok hd).mpr h.document, h.snapshot, FileTree.readText_eq_ok.mpr h.documentText,
      FileTree.readText_eq_ok.mpr h.snapshotText⟩

theorem exists_found_iff_complete :
    (∃ c, Found t snapshotFile directory c) ↔ Complete t snapshotFile directory := by
  simp only [found_iff_caseOf hd]
  constructor
  · rintro ⟨c, ⟨name, hname, hdocument⟩, hsnapshot, htext, hstored⟩
    exact ⟨⟨name, hname, c.documentText, hdocument ▸ htext⟩, c.snapshotText, hsnapshot ▸ hstored⟩
  · rintro ⟨⟨name, hname, documentText, htext⟩, snapshotText, hstored⟩
    exact ⟨⟨_, documentText, _, snapshotText⟩, ⟨name, hname, rfl⟩, rfl, htext, hstored⟩

theorem fixture_eq_error : (fixture t snapshotFile directory).result = .error failure ↔
    Fault t snapshotFile directory failure := by
  rw [fixture_result, bind_eq_error, select_eq_error hd]
  simp only [select_eq_ok hd, readCase_eq_error]
  constructor
  · rintro (⟨hnone, rfl⟩ | ⟨_, ⟨name, hname, rfl⟩, ⟨cause, hdoc, rfl⟩ | ⟨hdoc, cause, hsnap, rfl⟩⟩)
    · exact .missing hnone
    · exact .document hname hdoc
    · exact .snapshot hname hdoc hsnap
  · rintro (hnone | ⟨hname, hdoc⟩ | ⟨hname, hdoc, hsnap⟩)
    · exact .inl ⟨hnone, rfl⟩
    · exact .inr ⟨_, ⟨_, hname, rfl⟩, .inl ⟨_, hdoc, rfl⟩⟩
    · exact .inr ⟨_, ⟨_, hname, rfl⟩, .inr ⟨hdoc, _, hsnap, rfl⟩⟩

end

theorem exists_caseNames (snapshotFile : Bytes) (hroot : t.isDirectory root = true) :
    ∃ names : List Bytes, names.Pairwise (· < ·) ∧ (∀ name, name ∈ names ↔ CaseName t root name) ∧
      discover t root snapshotFile = fixtures t snapshotFile (names.map (Path.join root)) := by
  obtain ⟨names, hentries, hordered, hmem⟩ := exists_entries hroot
  refine ⟨names.filter (t.isDirectory ∘ Path.join root), hordered.filter _, fun name => ?_, ?_⟩
  · rw [List.mem_filter, hmem]
    exact ⟨fun ⟨hlies, hd⟩ => ⟨hlies, hd⟩, fun h => ⟨h.lies, h.isDirectory⟩⟩
  · simp only [discover, hroot, hentries, List.filter_map]
    rfl

theorem exists_result_iff : (∃ cases, (discover t root snapshotFile).result = .ok cases) ↔
    t.isDirectory root = true ∧
      ∀ name, CaseName t root name → Complete t snapshotFile (Path.join root name) := by
  cases hroot : t.isDirectory root with
  | false => simp [discover, hroot, Finding.fail]
  | true =>
    obtain ⟨names, -, hmem, hdiscover⟩ := exists_caseNames snapshotFile hroot
    rw [hdiscover]
    simp only [fixtures_eq_ok, List.forall₂_map_left_iff, exists_forall₂_iff, hmem, true_and]
    refine forall₂_congr fun name hname => ?_
    exact exists_found_iff_complete hname.isDirectory

theorem cases_of_result {cases : List FixtureCase}
    (h : (discover t root snapshotFile).result = .ok cases) : ∃ names : List Bytes,
    names.Pairwise (· < ·) ∧ (∀ name, name ∈ names ↔ CaseName t root name) ∧
      List.Forall₂ (fun name => CaseOf t snapshotFile (Path.join root name)) names cases := by
  obtain ⟨names, hordered, hmem, hdiscover⟩ :=
    exists_caseNames snapshotFile (discover_eq_ok.mp h).1
  rw [hdiscover, fixtures_eq_ok, List.forall₂_map_left_iff] at h
  have hnames : ∀ name ∈ names, CaseName t root name := fun name => (hmem name).mp
  refine ⟨names, hordered, hmem, ((List.forall₂_and_left _ _).mpr ⟨hnames, h⟩).imp ?_⟩
  rintro name c ⟨hname, hc⟩
  exact (found_iff_caseOf hname.isDirectory).mp hc

theorem firstFault_of_result (h : (discover t root snapshotFile).result = .error failure) :
    FirstFault t root snapshotFile failure := by
  cases hroot : t.isDirectory root with
  | false =>
    obtain rfl : .notADirectory root = failure := by simpa [discover, hroot, Finding.fail] using h
    exact .root hroot
  | true =>
    obtain ⟨names, hordered, hmem, hdiscover⟩ := exists_caseNames snapshotFile hroot
    rw [hdiscover, fixtures_eq_error] at h
    obtain ⟨_, _, _, heq, hbefore, hfailed⟩ := h
    obtain ⟨before, later, rfl, rfl, hlater⟩ := List.map_eq_append_iff.mp heq
    obtain ⟨name, after, rfl, rfl, -⟩ := List.map_eq_cons_iff.mp hlater
    have hname : CaseName t root name := (hmem name).mp (by simp)
    refine .case hroot hname ?_ ((fixture_eq_error hname.isDirectory).mp hfailed)
    intro earlier hearlier hlt
    have hin : earlier ∈ before := by
      refine (List.mem_append.mp ((hmem earlier).mpr hearlier)).resolve_right fun hin => ?_
      rcases List.mem_cons.mp hin with rfl | hin
      · exact List.lt_irrefl _ hlt
      · have hgt := (List.pairwise_cons.mp (List.pairwise_append.mp hordered).2.1).1 _ hin
        exact List.lt_asymm hlt hgt
    exact (exists_found_iff_complete hearlier.isDirectory).mp (hbefore _ (List.mem_map_of_mem hin))

theorem result_of_firstFault (h : FirstFault t root snapshotFile failure) :
    (discover t root snapshotFile).result = .error failure := by
  cases h with
  | root hroot => simp [discover, hroot, Finding.fail]
  | @case name _ hroot hname hearlier hfault =>
    obtain ⟨names, hordered, hmem, hdiscover⟩ := exists_caseNames snapshotFile hroot
    obtain ⟨before, after, rfl⟩ := List.append_of_mem ((hmem name).mpr hname)
    rw [hdiscover, fixtures_eq_error]
    refine ⟨before.map (Path.join root), _, _, List.map_append, ?_,
      (fixture_eq_error hname.isDirectory).mpr hfault⟩
    intro directory hdirectory
    obtain ⟨earlier, hin, rfl⟩ := List.mem_map.mp hdirectory
    have hlt : earlier < name := (List.pairwise_append.mp hordered).2.2 _ hin _ List.mem_cons_self
    have hcase : CaseName t root earlier := (hmem earlier).mp (List.mem_append_left _ hin)
    exact (exists_found_iff_complete hcase.isDirectory).mpr (hearlier earlier hcase hlt)

/-- Discovery finds all cases or none. If every directory under the root has a document and a
snapshot that can be read, there is one case for each, in the order of their names and with the
least document. Otherwise the first directory that lacks something decides the failure, and a run
comes to that failure without a byte of output and without a change of any file. -/
theorem discover_exact (t : FileTree) (root snapshotFile : Bytes) :
    let found := (discover t root snapshotFile).result
    ((∃ cases, found = .ok cases) ↔ t.isDirectory root = true ∧
        ∀ name, CaseName t root name → Complete t snapshotFile (Path.join root name)) ∧
      (∀ cases, found = .ok cases → ∃ names : List Bytes, names.Pairwise (· < ·) ∧
        (∀ name, name ∈ names ↔ CaseName t root name) ∧
        List.Forall₂ (fun name => CaseOf t snapshotFile (Path.join root name)) names cases) ∧
      (∀ failure, found = .error failure ↔ FirstFault t root snapshotFile failure) ∧
      ∀ failure, found = .error failure →
        ∀ (r : Runner) (mode : Mode) (timing : Timing) (streams : Report.Streams)
          (notices : List Notice),
          let after := r.run ⟨root, snapshotFile, mode⟩ timing ⟨t, streams, notices⟩
          after.2 = .error failure ∧ after.1.streams = streams ∧ after.1.tree = t := by
  refine ⟨exists_result_iff, fun cases => cases_of_result,
    fun failure => ⟨firstFault_of_result, result_of_firstFault⟩, ?_⟩
  intro failure hfailed r mode timing streams notices after
  let w : World := ⟨t, streams, notices⟩
  have hrun : after = _ := Runner.run_of_failed_discovery (w := w) hfailed
  rw [hrun]
  exact ⟨rfl, rfl, rfl⟩

end Discovery

namespace Lacking

/-- Two fixtures, of which the second has no document. -/
def tree : FileTree where
  entries :=
    [("r", .directory), ("r/b", .directory), ("r/b/s", .file []), ("r/a", .directory),
      ("r/a/s", .file []), ("r/a/x.yml", .file [])].map fun e => (Path.split (Text.encode e.1), e.2)
  working := []

end Lacking

theorem lacking_document_ends_run :
    let failure := Failure.missingDocument (Text.encode "r/b")
    Discovery.FirstFault Lacking.tree (Text.encode "r") (Text.encode "s") failure ∧
      let after := (Runner.mk .builtin .none).run ⟨Text.encode "r", Text.encode "s", .update⟩
        ⟨.epoch, .ofNat 0⟩ ⟨Lacking.tree, .ofLimits none none, []⟩
      after.2 = .error failure ∧ after.1.tree = Lacking.tree := by
  have hfailed : (Discovery.discover Lacking.tree (Text.encode "r") (Text.encode "s")).result =
      .error (.missingDocument (Text.encode "r/b")) := by cbv
  obtain ⟨-, -, hfault, hrun⟩ :=
    Discovery.discover_exact Lacking.tree (Text.encode "r") (Text.encode "s")
  obtain ⟨hend, -, htree⟩ := hrun _ hfailed ⟨.builtin, .none⟩ .update ⟨.epoch, .ofNat 0⟩
    (.ofLimits none none) []
  exact ⟨(hfault _).mp hfailed, hend, htree⟩

end WorkflowCheck
