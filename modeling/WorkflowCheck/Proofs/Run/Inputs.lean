import WorkflowCheck.Proofs.Run.Extent

/-! What becomes of the documents that a run reads. Nothing keeps the name of the snapshot files
from being the name of a document, or from leading to one: an update run then writes over it. All
other documents stay as they are. -/

namespace WorkflowCheck

theorem Text.encode_injective {a b : String} (h : encode a = encode b) : a = b := by
  have heq := congrArg decode? h
  rw [decode?_encode, decode?_encode] at heq
  exact Option.some.inj heq

theorem State.head_snapshot (state : State) : state.snapshot.toList.head? = some '{' := by
  rw [snapshot, String.toList_ofList, toValue, Json.pretty]
  rfl

section

variable {r : Runner} {config : RunConfig} {timing : Timing} {t u : FileTree} {w : World}
  {root snapshotFile : Bytes} {cases saved : List FixtureCase} {c : FixtureCase}

namespace Runner

theorem mismatched_eq_true : r.mismatched c = true ↔ c.snapshotText ≠ r.newSnapshot c := by
  simp [mismatched, snapshotMatches]

/-- A document is either out of reach of some saves or holds the new snapshot of a saved case. -/
theorem read_document_of_saved
    (hcases : (Discovery.discover t root snapshotFile).result = .ok cases) (hc : c ∈ cases)
    (hsaved : saved ⊆ cases) (hwrite : t.writeAll (saved.map r.rewritten) = .ok u) :
    (t.place? c.document ∉ snapshotPlaces t saved → u.read c.document = t.read c.document) ∧
      (t.place? c.document ∈ snapshotPlaces t saved → ∃ d ∈ saved,
        t.read c.document = .ok (Text.encode d.snapshotText) ∧
          u.read c.document = .ok (Text.encode (r.newSnapshot d))) := by
  have hfiles : ∀ d ∈ saved, t.isFile d.snapshot = true := fun d hd => isFile_snapshot hcases (hsaved hd)
  obtain ⟨f, hf, hkept, hwritten⟩ := writeAll_rewritten (r := r) hfiles
  obtain rfl : u = t.refill f := Except.ok.inj (hwrite.symm.trans hf)
  obtain ⟨_, hfound⟩ := Discovery.exists_found_of_mem hcases hc
  have hread := FileTree.readText_eq_ok.mp hfound.documentText
  obtain ⟨p, hp⟩ := FileTree.read_eq_ok.mp hread
  rw [FileTree.place?_of_entry hp, FileTree.read_refill t f hp, hread]
  constructor
  · intro hout
    rw [hkept p hout]
    rfl
  · intro hin
    obtain ⟨d, hd, hdp, hcontent⟩ := hwritten p hin
    obtain ⟨_, hfound'⟩ := Discovery.exists_found_of_mem hcases (hsaved hd)
    obtain ⟨q, hq⟩ := FileTree.read_eq_ok.mp (FileTree.readText_eq_ok.mp hfound'.snapshotText)
    obtain rfl : q = p := Option.some.inj ((FileTree.place?_of_entry hq).symm.trans hdp)
    have hsame := FileTree.eq_of_mem_entries (FileTree.mem_entries_of_entry_file hp)
      (FileTree.mem_entries_of_entry_file hq)
    refine ⟨d, hd, ?_, congrArg Except.ok (hcontent _)⟩
    rw [Entry.file.inj hsame]

theorem read_document_ne_of_saved
    (hcases : (Discovery.discover t root snapshotFile).result = .ok cases) (hc : c ∈ cases)
    (hwrite : t.writeAll ((cases.filter r.mismatched).map r.rewritten) = .ok u)
    (hin : t.place? c.document ∈ snapshotPlaces t (cases.filter r.mismatched)) :
    u.read c.document ≠ t.read c.document := by
  obtain ⟨d, hd, hold, hnew⟩ :=
    (read_document_of_saved hcases hc (List.filter_subset_self _) hwrite).2 hin
  intro h
  rw [hold, hnew] at h
  have htext := Text.encode_injective (Except.ok.inj h)
  exact mismatched_eq_true.mp (List.mem_filter.mp hd).2 htext.symm

theorem writeAll_mismatched_of_update_run {w' : World} {summary : Summary}
    (hmode : config.mode = .update)
    (hcases : (Discovery.discover w.tree config.root config.snapshotFile).result = .ok cases)
    (hrun : r.run config timing w = (w', .ok summary)) :
    w.tree.writeAll ((cases.filter r.mismatched).map r.rewritten) = .ok w'.tree := by
  obtain ⟨n, hwrite, -, -, hok⟩ := exists_saved_of_update_run r timing hmode hcases
  rw [hrun] at hwrite hok
  rwa [hok summary rfl] at hwrite

end Runner

/-- However an update run ends, a document keeps its contents unless the snapshot of a mismatched
case leads to it. A run that succeeds changes every document to which one does. -/
theorem update_run_keeps_inputs (hmode : config.mode = .update)
    (hcases : (Discovery.discover w.tree config.root config.snapshotFile).result = .ok cases)
    (hc : c ∈ cases) :
    let stale := snapshotPlaces w.tree (cases.filter r.mismatched)
    let after := r.run config timing w
    (w.tree.place? c.document ∉ stale → after.1.tree.read c.document = w.tree.read c.document) ∧
      ∀ summary, after.2 = .ok summary → w.tree.place? c.document ∈ stale →
        after.1.tree.read c.document ≠ w.tree.read c.document := by
  intro stale after
  constructor
  · intro hout
    obtain ⟨n, hwrite, -⟩ := Runner.exists_saved_of_update_run r timing hmode hcases
    have hsub : (cases.take n).filter r.mismatched ⊆ cases.filter r.mismatched :=
      ((List.take_prefix n cases).filter _).subset
    have hsaved : (cases.take n).filter r.mismatched ⊆ cases := fun d hd =>
      (List.mem_filter.mp (hsub hd)).1
    refine (Runner.read_document_of_saved hcases hc hsaved hwrite).1 fun hin => hout ?_
    exact List.map_subset _ hsub hin
  · intro summary hok hin
    have hrun : r.run config timing w = (after.1, .ok summary) := Prod.ext rfl hok
    exact Runner.read_document_ne_of_saved hcases hc
      (Runner.writeAll_mismatched_of_update_run hmode hcases hrun) hin

end

namespace Overlap

/-- Two fixtures, where the snapshot of the first is its document. -/
def tree : FileTree where
  entries :=
    [("r", .directory), ("r/a", .directory), ("r/b", .directory),
      ("r/a/action.yml", .file (Text.encode "name: a\n")),
      ("r/b/a.yml", .file (Text.encode "on: push\n")),
      ("r/b/action.yml", .file (Text.encode "old\n"))].map
      fun e => (Path.split (Text.encode e.1), e.2)
  working := []

def world : World := ⟨tree, .ofLimits none none, []⟩

def config : RunConfig := ⟨Text.encode "r", Text.encode "action.yml", .update⟩

def runner : Runner := ⟨.builtin, .none⟩

def timing : Timing := ⟨.epoch, .ofNat 0⟩

def first : FixtureCase :=
  ⟨Text.encode "r/a/action.yml", "name: a\n", Text.encode "r/a/action.yml", "name: a\n"⟩

def second : FixtureCase :=
  ⟨Text.encode "r/b/a.yml", "on: push\n", Text.encode "r/b/action.yml", "old\n"⟩

theorem discover_world : (Discovery.discover world.tree config.root config.snapshotFile).result =
    .ok [first, second] := by cbv

theorem snapshot_ne (state : State) : "name: a\n" ≠ state.snapshot := by
  intro h
  have hhead := state.head_snapshot
  rw [← h] at hhead
  exact absurd hhead (by decide)

end Overlap

/-- The second document lies beside the snapshots and is kept, -/
theorem overlap_keeps_second :
    Overlap.config.mode = .update ∧
      (Discovery.discover Overlap.world.tree Overlap.config.root Overlap.config.snapshotFile).result =
        .ok [Overlap.first, Overlap.second] ∧
      Overlap.second ∈ [Overlap.first, Overlap.second] ∧
      (Overlap.runner.run Overlap.config Overlap.timing Overlap.world).1.tree.read
        Overlap.second.document = Overlap.world.tree.read Overlap.second.document := by
  have hmem : Overlap.second ∈ [Overlap.first, Overlap.second] :=
    List.mem_cons_of_mem _ List.mem_cons_self
  refine ⟨rfl, Overlap.discover_world, hmem, ?_⟩
  have hout : Overlap.world.tree.place? Overlap.second.document ∉
      snapshotPlaces Overlap.world.tree [Overlap.first, Overlap.second] := by decide_cbv
  exact (update_run_keeps_inputs rfl Overlap.discover_world hmem).1 fun hin =>
    hout (List.map_subset _ (List.filter_subset_self _) hin)

/-- while the first is written over by an update run that succeeds. -/
theorem overlap_overwrites_first : ∃ w' summary, Overlap.config.mode = .update ∧
    Overlap.runner.run Overlap.config Overlap.timing Overlap.world = (w', .ok summary) ∧
    (Discovery.discover Overlap.world.tree Overlap.config.root Overlap.config.snapshotFile).result =
      .ok [Overlap.first, Overlap.second] ∧
    w'.tree.read Overlap.first.document ≠ Overlap.world.tree.read Overlap.first.document := by
  have hnd : (snapshotPlaces Overlap.world.tree [Overlap.first, Overlap.second]).Nodup := by decide_cbv
  obtain ⟨w', summary, hrun⟩ := Runner.update_run_of_unlimited (r := Overlap.runner)
    (w := Overlap.world) Overlap.timing rfl ⟨rfl, rfl⟩ Overlap.discover_world hnd
  have hstale : Overlap.first ∈ [Overlap.first, Overlap.second].filter Overlap.runner.mismatched :=
    List.mem_filter.mpr ⟨List.mem_cons_self, Runner.mismatched_eq_true.mpr (Overlap.snapshot_ne _)⟩
  refine ⟨w', summary, rfl, hrun, Overlap.discover_world, ?_⟩
  exact Runner.read_document_ne_of_saved Overlap.discover_world List.mem_cons_self
    (Runner.writeAll_mismatched_of_update_run rfl Overlap.discover_world hrun)
    (mem_snapshotPlaces hstale)

end WorkflowCheck
