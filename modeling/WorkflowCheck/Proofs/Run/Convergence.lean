import Mathlib
import WorkflowCheck.Proofs.Discovery
import WorkflowCheck.Proofs.Run.Saves

/-! One update run settles the snapshots. Its saves together are one change of contents, which
depends on the documents and not on the snapshots that were there before. A run on the settled
tree finds every snapshot as the engine has it and saves nothing. -/

namespace WorkflowCheck

def snapshotPlaces (t : FileTree) (cases : List FixtureCase) : List (Option Place) :=
  cases.map fun c => t.place? c.snapshot

@[simp] theorem snapshotPlaces_cons (t : FileTree) (c : FixtureCase) (rest : List FixtureCase) :
    snapshotPlaces t (c :: rest) = t.place? c.snapshot :: snapshotPlaces t rest := rfl

@[simp] theorem snapshotPlaces_refill (t : FileTree) (f : Place → Bytes → Bytes)
    (cases : List FixtureCase) : snapshotPlaces (t.refill f) cases = snapshotPlaces t cases := by
  simp only [snapshotPlaces, FileTree.place?_refill]

theorem snapshotPlaces_map_withSnapshot (t : FileTree) (cases : List FixtureCase)
    (text : FixtureCase → String) :
    snapshotPlaces t (cases.map fun c => c.withSnapshot (text c)) = snapshotPlaces t cases := by
  simp [snapshotPlaces, FixtureCase.withSnapshot, Function.comp_def]

theorem mem_snapshotPlaces {t : FileTree} {cases : List FixtureCase} {c : FixtureCase}
    (h : c ∈ cases) : t.place? c.snapshot ∈ snapshotPlaces t cases :=
  List.mem_map_of_mem h

/-- The snapshots of cases are files of their own, none of them the document of a case. -/
structure Apart (t : FileTree) (cases : List FixtureCase) : Prop where
  distinct : (snapshotPlaces t cases).Nodup
  inputs : ∀ c ∈ cases, t.place? c.document ∉ snapshotPlaces t cases

namespace Runner

variable (r : Runner)

@[simp] theorem newSnapshot_withSnapshot (c : FixtureCase) (text : String) :
    r.newSnapshot (c.withSnapshot text) = r.newSnapshot c := by
  simp only [newSnapshot, FixtureCase.withSnapshot, FixtureCase.kind]

@[simp] theorem newSnapshot_palette (palette : Report.Palette) (c : FixtureCase) :
    (⟨r.engine, palette⟩ : Runner).newSnapshot c = r.newSnapshot c := by
  simp only [newSnapshot]

/-- The contents of files once the snapshots of all cases are written. -/
def settled (t : FileTree) : List FixtureCase → Place → Bytes → Bytes
  | [], _, old => old
  | c :: rest, p, old =>
    if t.place? c.snapshot = some p then Text.encode (r.newSnapshot c) else settled t rest p old

section

variable {r} {t : FileTree} {cases : List FixtureCase}

theorem settled_of_notMem {p : Place} (h : some p ∉ snapshotPlaces t cases)
    (old : Bytes) : r.settled t cases p old = old := by
  induction cases with
  | nil => rfl
  | cons c rest ih =>
    simp only [snapshotPlaces_cons, List.mem_cons, not_or] at h
    rw [settled, if_neg (Ne.symm h.1), ih h.2]

theorem settled_of_mem (hnd : (snapshotPlaces t cases).Nodup) {c : FixtureCase}
    (hc : c ∈ cases) {p : Place} (hp : t.place? c.snapshot = some p) (old : Bytes) :
    r.settled t cases p old = Text.encode (r.newSnapshot c) := by
  induction cases with
  | nil => simp at hc
  | cons d rest ih =>
    rw [snapshotPlaces_cons, List.nodup_cons] at hnd
    rcases List.mem_cons.mp hc with rfl | hc
    · rw [settled, if_pos hp]
    · have hne : t.place? d.snapshot ≠ some p := by
        intro hd
        apply hnd.1
        rw [hd, ← hp]
        exact mem_snapshotPlaces hc
      rw [settled, if_neg hne, ih hnd.2 hc]

theorem settled_refill (f : Place → Bytes → Bytes) :
    r.settled (t.refill f) cases = r.settled t cases := by
  funext p old
  induction cases with
  | nil => rfl
  | cons c rest ih => simp only [settled, FileTree.place?_refill, ih]

theorem settled_map_withSnapshot (cases : List FixtureCase) (text : FixtureCase → String) :
    r.settled t (cases.map fun c => c.withSnapshot (text c)) = r.settled t cases := by
  funext p old
  induction cases with
  | nil => rfl
  | cons c rest ih =>
    simp only [List.map_cons, settled, ih, newSnapshot_withSnapshot]
    rfl

theorem settled_palette (palette : Report.Palette) :
    (⟨r.engine, palette⟩ : Runner).settled t cases = r.settled t cases := by
  funext p old
  induction cases with
  | nil => rfl
  | cons c rest ih => simp only [settled, ih, newSnapshot_palette]

theorem saves_caseEffects (mode : Mode) (c : FixtureCase) : saves (r.caseEffects mode c) =
    if (r.outcome mode c).updated then [(c.snapshot, r.newSnapshot c)] else [] := by
  rw [caseEffects_eq, saves_append, saves_showing, Outcome.saves_persist, List.nil_append]
  rfl

theorem saves_caseEffects_update (c : FixtureCase) :
    saves (r.caseEffects .update c) =
      if c.snapshotText = r.newSnapshot c then [] else [(c.snapshot, r.newSnapshot c)] := by
  simp [saves_caseEffects, outcome, snapshotMatches]

theorem saves_caseEffects_check (c : FixtureCase) : saves (r.caseEffects .check c) = [] := by
  simp [saves_caseEffects, outcome]

theorem saves_caseEffects_of_matched (mode : Mode) {c : FixtureCase}
    (h : c.snapshotText = r.newSnapshot c) : saves (r.caseEffects mode c) = [] := by
  simp [saves_caseEffects, outcome, snapshotMatches, h]

/-- A case whose snapshot matches is left alone, which is as good as writing it. -/
theorem writeAll_case {c : FixtureCase} (h : t.readText c.snapshot = .ok c.snapshotText) :
    ∃ p, t.place? c.snapshot = some p ∧ t.writeAll (saves (r.caseEffects .update c)) =
      .ok (t.refill (FileTree.overwrite p (Text.encode (r.newSnapshot c)))) := by
  obtain ⟨p, hp⟩ := FileTree.read_eq_ok.mp (FileTree.readText_eq_ok.mp h)
  refine ⟨p, FileTree.place?_of_entry hp, ?_⟩
  rw [saves_caseEffects_update]
  split
  · next hm =>
    rw [← hm, FileTree.refill_overwrite_self (FileTree.mem_entries_of_entry_file hp)]
    rfl
  · rw [FileTree.writeAll_singleton]
    exact FileTree.write_eq_refill hp _

theorem writeAll_cases (hr : ∀ c ∈ cases, t.readText c.snapshot = .ok c.snapshotText)
    (hnd : (snapshotPlaces t cases).Nodup) :
    t.writeAll (cases.flatMap fun c => saves (r.caseEffects .update c)) =
      .ok (t.refill (r.settled t cases)) := by
  induction cases generalizing t with
  | nil => exact congrArg Except.ok t.refill_id.symm
  | cons c rest ih =>
    rw [List.forall_mem_cons] at hr
    rw [snapshotPlaces_cons, List.nodup_cons] at hnd
    obtain ⟨p, hp, hw⟩ := writeAll_case (r := r) hr.1
    rw [List.flatMap_cons, FileTree.writeAll_append, hw, ok_bind]
    have hrest : ∀ d ∈ rest, (t.refill (FileTree.overwrite p (Text.encode (r.newSnapshot c)))).readText
        d.snapshot = .ok d.snapshotText := by
      intro d hd
      refine FileTree.readText_refill (hr.2 d hd) fun q hq => if_neg ?_
      rintro rfl
      apply hnd.1
      rw [hp, ← hq]
      exact mem_snapshotPlaces hd
    rw [ih hrest (by simpa using hnd.2), settled_refill,
      FileTree.refill_refill]
    congr 2
    funext q old
    by_cases hq : p = q
    · subst hq
      rw [settled, if_pos hp, settled_of_notMem (hp ▸ hnd.1)]
      simp [FileTree.overwrite]
    · rw [settled, if_neg (by simpa [hp] using hq)]
      simp [FileTree.overwrite, Ne.symm hq]

theorem run_eq_ok {config : RunConfig} {timing : Timing} {w w' : World} {summary : Summary} :
    r.run config timing w = (w', .ok summary) ↔
      ∃ cases, (Discovery.discover w.tree config.root config.snapshotFile).result = .ok cases ∧
        w.performAll (r.plan config timing w.tree).effects = (w', none) ∧
        summary = ⟨config.mode, timing, cases.map (r.outcome config.mode)⟩ := by
  rw [run, World.follow_eq_ok]
  cases hfound : (Discovery.discover w.tree config.root config.snapshotFile).result with
  | error failure => simp [plan_of_failed timing hfound]
  | ok cases => simp [plan_of_found timing hfound, eq_comm]

theorem saves_plan {config : RunConfig} {timing : Timing}
    (h : (Discovery.discover t config.root config.snapshotFile).result = .ok cases) :
    saves (r.plan config timing t).effects =
      cases.flatMap fun c => saves (r.caseEffects config.mode c) := by
  simp [plan_of_found timing h]

theorem writeAll_plan {config : RunConfig} (timing : Timing) (hmode : config.mode = .update)
    (hcases : (Discovery.discover t config.root config.snapshotFile).result = .ok cases)
    (hnd : (snapshotPlaces t cases).Nodup) :
    t.writeAll (saves (r.plan config timing t).effects) = .ok (t.refill (r.settled t cases)) := by
  rw [saves_plan hcases, hmode]
  exact writeAll_cases (fun c hc => (Discovery.exists_found_of_mem hcases hc).elim fun _ hf =>
    hf.snapshotText) hnd

theorem tree_of_update_run {config : RunConfig} {timing : Timing} {w w' : World} {summary : Summary}
    (hmode : config.mode = .update) (hrun : r.run config timing w = (w', .ok summary))
    (hcases : (Discovery.discover w.tree config.root config.snapshotFile).result = .ok cases)
    (hnd : (snapshotPlaces w.tree cases).Nodup) :
    w'.tree = w.tree.refill (r.settled w.tree cases) := by
  obtain ⟨_, -, hp, -⟩ := run_eq_ok.mp hrun
  have hw := World.writeAll_of_performAll hp
  rw [writeAll_plan timing hmode hcases hnd, Except.ok.injEq] at hw
  exact hw.symm

/-- With room for all output, an update run over snapshots that are files of their own cannot
fail. -/
theorem update_run_of_unlimited {config : RunConfig} (timing : Timing) {w : World}
    (hmode : config.mode = .update) (hu : w.streams.Unlimited)
    (hcases : (Discovery.discover w.tree config.root config.snapshotFile).result = .ok cases)
    (hnd : (snapshotPlaces w.tree cases).Nodup) :
    ∃ w' summary, r.run config timing w = (w', .ok summary) := by
  have hp := w.performAll_of_unlimited (writeAll_plan (r := r) timing hmode hcases hnd) hu
  exact ⟨_, _, run_eq_ok.mpr ⟨cases, hcases, Prod.ext rfl hp, rfl⟩⟩

theorem readText_document_settled {snapshotFile root : Bytes}
    (hcases : (Discovery.discover t root snapshotFile).result = .ok cases) (hapart : Apart t cases)
    {c : FixtureCase} (hc : c ∈ cases) :
    (t.refill (r.settled t cases)).readText c.document = .ok c.documentText := by
  obtain ⟨_, hf⟩ := Discovery.exists_found_of_mem hcases hc
  exact FileTree.readText_refill hf.documentText fun p hp =>
    settled_of_notMem (hp ▸ hapart.inputs c hc) _

theorem readText_snapshot_settled {snapshotFile root : Bytes}
    (hcases : (Discovery.discover t root snapshotFile).result = .ok cases) (hapart : Apart t cases)
    {c : FixtureCase} (hc : c ∈ cases) :
    (t.refill (r.settled t cases)).readText c.snapshot = .ok (r.newSnapshot c) := by
  obtain ⟨_, hf⟩ := Discovery.exists_found_of_mem hcases hc
  exact FileTree.readText_refill hf.snapshotText fun p hp => settled_of_mem hapart.distinct hc hp _

theorem discover_settled {snapshotFile root : Bytes}
    (hcases : (Discovery.discover t root snapshotFile).result = .ok cases) (hapart : Apart t cases) :
    (Discovery.discover (t.refill (r.settled t cases)) root snapshotFile).result =
      .ok (cases.map fun c => c.withSnapshot (r.newSnapshot c)) :=
  Discovery.discover_refill hcases r.newSnapshot
    (fun _ hc => readText_document_settled hcases hapart hc)
    (fun _ hc => readText_snapshot_settled hcases hapart hc)

theorem run_of_matched (config : RunConfig) (timing : Timing) {w : World}
    (hcases : (Discovery.discover w.tree config.root config.snapshotFile).result = .ok cases)
    (hm : ∀ c ∈ cases, c.snapshotText = r.newSnapshot c) :
    (r.run config timing w).1.tree = w.tree ∧
      ((r.run config timing w).2 = .ok ⟨config.mode, timing, cases.map (r.outcome config.mode)⟩ ∨
        (r.run config timing w).2 = .error (.output .full) ∧ ¬ w.streams.Unlimited) := by
  have hs : saves (r.plan config timing w.tree).effects = [] := by
    rw [saves_plan hcases, List.flatMap_eq_nil_iff]
    exact fun c hc => saves_caseEffects_of_matched _ (hm c hc)
  have hres : (r.plan config timing w.tree).result =
      .ok ⟨config.mode, timing, cases.map (r.outcome config.mode)⟩ := by
    rw [plan_of_found timing hcases]
  have hall := World.performAll_of_saves_nil w hs
  have hwrite : w.tree.writeAll (saves (r.plan config timing w.tree).effects) = .ok w.tree := by
    rw [hs]
    rfl
  have hun := World.performAll_of_unlimited w hwrite
  unfold run World.follow
  rcases hp : w.performAll (r.plan config timing w.tree).effects with ⟨v, _ | failure⟩
  · simp_all
  · simp_all

end

end Runner

/-- Every case matches, with no snapshot written and none to be written. -/
structure Summary.Settled (s : Summary) (cases : List FixtureCase) : Prop where
  documents : s.outcomes.map (·.document) = cases.map (·.document)
  matched : ∀ o ∈ s.outcomes, o.matched = true
  updated : s.updated = 0
  passed : s.passed = true

theorem Runner.settled_summary (r : Runner) (mode : Mode) (timing : Timing)
    {cases : List FixtureCase} (hm : ∀ c ∈ cases, c.snapshotText = r.newSnapshot c) :
    Summary.Settled ⟨mode, timing, cases.map (r.outcome mode)⟩ cases := by
  have hmatched : ∀ c ∈ cases, (r.outcome mode c).matched = true := fun c hc => by
    simp [outcome, snapshotMatches, hm c hc]
  refine ⟨by simp [outcome], by simpa using hmatched, ?_, ?_⟩
  · rw [Summary.updated, List.countP_eq_zero, List.forall_mem_map]
    intro c hc
    have := hmatched c hc
    simp_all [outcome]
  · cases mode
    · simpa [Summary.passed, Mode.passes] using hmatched
    · rfl

/-- One more run of an engine, in either mode, style and output, turns one tree into another. -/
def Rerun (engine : Engine) (config : RunConfig) (t u : FileTree) : Prop :=
  ∃ (palette : Report.Palette) (mode : Mode) (timing : Timing) (w : World), w.tree = t ∧
    ((⟨engine, palette⟩ : Runner).run { config with mode := mode } timing w).1.tree = u

/-- What an update run over the cases of one tree has come to in another. -/
structure Converged (engine : Engine) (config : RunConfig) (t t' : FileTree)
    (cases : List FixtureCase) : Prop where
  snapshots : ∀ c ∈ cases, t'.read c.snapshot =
    .ok (Text.encode (engine.validate (Kind.ofPath c.document) c.documentText).snapshot)
  others : ∀ p, some p ∉ snapshotPlaces t cases → t'.at? p = t.at? p
  /-- Other snapshots beforehand would have led to the same tree. -/
  determined : ∀ (palette : Report.Palette) (timing : Timing) (v v' : World) (summary : Summary),
    t.EqOutside (snapshotPlaces t cases) v.tree →
    (⟨engine, palette⟩ : Runner).run config timing v = (v', .ok summary) → v'.tree = t'
  /-- Later runs change nothing, find nothing to change and fail only where a stream is full. -/
  stable : ∀ v : World, Relation.ReflTransGen (Rerun engine config) t' v.tree →
    v.tree = t' ∧ ∀ (palette : Report.Palette) (mode : Mode) (timing : Timing),
      let later := (⟨engine, palette⟩ : Runner).run { config with mode := mode } timing v
      later.1.tree = v.tree ∧ ∃ s : Summary, s.Settled cases ∧
        (later.2 = .ok s ∨ later.2 = .error (.output .full) ∧ ¬ v.streams.Unlimited)

section

variable {r : Runner} {config : RunConfig} {t : FileTree} {cases : List FixtureCase}

theorem run_of_settled
    (hcases : (Discovery.discover t config.root config.snapshotFile).result = .ok cases)
    (hapart : Apart t cases) (palette : Report.Palette) (mode : Mode) (timing : Timing) {w : World}
    (hw : w.tree = t.refill (r.settled t cases)) :
    let later := (⟨r.engine, palette⟩ : Runner).run { config with mode := mode } timing w
    later.1.tree = w.tree ∧ ∃ s : Summary, s.Settled cases ∧
      (later.2 = .ok s ∨ later.2 = .error (.output .full) ∧ ¬ w.streams.Unlimited) := by
  intro later
  have hfound := Runner.discover_settled (r := r) hcases hapart
  rw [← hw] at hfound
  have hm : ∀ c ∈ cases.map (fun c => c.withSnapshot (r.newSnapshot c)),
      c.snapshotText = (⟨r.engine, palette⟩ : Runner).newSnapshot c := by
    simp only [List.forall_mem_map, Runner.newSnapshot_palette, Runner.newSnapshot_withSnapshot]
    exact fun _ _ => rfl
  obtain ⟨htree, hres⟩ := Runner.run_of_matched { config with mode := mode } timing hfound hm
  have hs := Runner.settled_summary ⟨r.engine, palette⟩ mode timing hm
  refine ⟨htree, _, ⟨?_, hs.matched, hs.updated, hs.passed⟩, hres⟩
  simpa [FixtureCase.withSnapshot, Function.comp_def] using hs.documents

theorem tree_of_reruns
    (hcases : (Discovery.discover t config.root config.snapshotFile).result = .ok cases)
    (hapart : Apart t cases) {u : FileTree}
    (h : Relation.ReflTransGen (Rerun r.engine config) (t.refill (r.settled t cases)) u) :
    u = t.refill (r.settled t cases) := by
  induction h with
  | refl => rfl
  | tail _ hstep ih =>
    obtain ⟨palette, mode, timing, w, hw, rfl⟩ := hstep
    rw [(run_of_settled hcases hapart palette mode timing (hw.trans ih)).1, hw, ih]

theorem settled_of_eqOutside {u : FileTree} {cases' : List FixtureCase}
    (hcases : (Discovery.discover t config.root config.snapshotFile).result = .ok cases)
    (hapart : Apart t cases) (hu : t.EqOutside (snapshotPlaces t cases) u)
    (hcases' : (Discovery.discover u config.root config.snapshotFile).result = .ok cases') :
    Apart u cases' ∧ u.refill (r.settled u cases') = t.refill (r.settled t cases) := by
  obtain ⟨f, rfl, hf⟩ := hu
  have hd : ∀ c ∈ cases, (t.refill f).readText c.document = .ok c.documentText := by
    intro c hc
    obtain ⟨_, hfound⟩ := Discovery.exists_found_of_mem hcases hc
    refine FileTree.readText_refill hfound.documentText fun p hp => ?_
    rw [hf p (hp ▸ hapart.inputs c hc)]
    rfl
  have hsame := Discovery.map_withSnapshot_of_refill "" hcases hcases' hd
  have hplaces : snapshotPlaces t cases' = snapshotPlaces t cases := by
    rw [← snapshotPlaces_map_withSnapshot t cases' fun _ => "", hsame, snapshotPlaces_map_withSnapshot]
  have hsettled : r.settled t cases' = r.settled t cases := by
    rw [← Runner.settled_map_withSnapshot cases' fun _ => "", hsame,
      Runner.settled_map_withSnapshot]
  have hdocuments : cases'.map (·.document) = cases.map (·.document) := by
    simpa [FixtureCase.withSnapshot, Function.comp_def] using
      congrArg (List.map (·.document)) hsame
  constructor
  · refine ⟨by simpa [hplaces] using hapart.distinct, fun c' hc' => ?_⟩
    have hm : c'.document ∈ cases.map (·.document) := hdocuments ▸ List.mem_map_of_mem hc'
    obtain ⟨c, hc, hdoc⟩ := List.mem_map.mp hm
    simpa [hplaces, FileTree.place?_refill, ← hdoc] using hapart.inputs c hc
  · rw [Runner.settled_refill, FileTree.refill_refill, hsettled]
    congr 1
    funext p old
    by_cases hp : some p ∈ snapshotPlaces t cases
    · obtain ⟨c, hc, hcp⟩ := List.mem_map.mp hp
      rw [Runner.settled_of_mem hapart.distinct hc hcp, Runner.settled_of_mem hapart.distinct hc hcp]
    · rw [hf p hp]
      rfl

/-- One update run settles all snapshots for good: each holds what the engine has to say about its
document, no other file is touched, and no later run finds anything to do, whatever the snapshots
held before. -/
theorem update_run_converges {timing : Timing} {w w' : World} {summary : Summary}
    (hmode : config.mode = .update) (hrun : r.run config timing w = (w', .ok summary))
    (hcases : (Discovery.discover w.tree config.root config.snapshotFile).result = .ok cases)
    (hapart : Apart w.tree cases) : Converged r.engine config w.tree w'.tree cases := by
  have htree := Runner.tree_of_update_run hmode hrun hcases hapart.distinct
  constructor
  case snapshots =>
    intro c hc
    rw [htree]
    exact FileTree.readText_eq_ok.mp (Runner.readText_snapshot_settled hcases hapart hc)
  case others =>
    intro p hp
    have hid : r.settled w.tree cases p = id := funext fun old => Runner.settled_of_notMem hp old
    rw [htree, FileTree.at?_refill, hid]
    rcases w.tree.at? p with _ | e
    · rfl
    · cases e <;> rfl
  case determined =>
    intro palette timing₂ v v' summary₂ hv hrun₂
    obtain ⟨cases', hcases', -⟩ := Runner.run_eq_ok.mp hrun₂
    obtain ⟨hapart', heq⟩ := settled_of_eqOutside hcases hapart hv hcases'
    rw [Runner.tree_of_update_run hmode hrun₂ hcases' hapart'.distinct, Runner.settled_palette, heq, htree]
  case stable =>
    intro v hv
    rw [htree] at hv ⊢
    have hsame := tree_of_reruns hcases hapart hv
    exact ⟨hsame, fun palette mode timing₂ => run_of_settled hcases hapart palette mode timing₂ hsame⟩

end

namespace Stale

/-- Two fixtures, of which the first has a stale snapshot. -/
def tree : FileTree where
  entries :=
    [("r", .directory), ("r/a", .directory), ("r/b", .directory),
      ("r/a/x.yml", .file (Text.encode "on: push\n")), ("r/a/s", .file (Text.encode "old\n")),
      ("r/b/x.yml", .file (Text.encode "on: push\n")),
      ("r/b/s", .file (Text.encode (State.mk .workflow []).snapshot))].map
      fun e => (Path.split (Text.encode e.1), e.2)
  working := []

def world : World := ⟨tree, .ofLimits none none, []⟩

def config : RunConfig := ⟨Text.encode "r", Text.encode "s", .update⟩

def runner : Runner := ⟨.fixed [], .none⟩

def timing : Timing := ⟨.epoch, .ofNat 0⟩

def first : FixtureCase :=
  ⟨Text.encode "r/a/x.yml", "on: push\n", Text.encode "r/a/s", "old\n"⟩

def second : FixtureCase :=
  ⟨Text.encode "r/b/x.yml", "on: push\n", Text.encode "r/b/s", (State.mk .workflow []).snapshot⟩

def cases : List FixtureCase := [first, second]

theorem discover_tree : (Discovery.discover tree config.root config.snapshotFile).result =
    .ok cases := by cbv

end Stale

theorem stale_snapshot_converges :
    ∃ w' summary, Stale.config.mode = .update ∧
      Stale.runner.run Stale.config Stale.timing Stale.world = (w', .ok summary) ∧
      (Discovery.discover Stale.world.tree Stale.config.root Stale.config.snapshotFile).result =
        .ok Stale.cases ∧
      Apart Stale.world.tree Stale.cases ∧
      Converged Stale.runner.engine Stale.config Stale.world.tree w'.tree Stale.cases := by
  have hapart : Apart Stale.world.tree Stale.cases := ⟨by decide_cbv, by decide_cbv⟩
  obtain ⟨w', summary, hrun⟩ := Runner.update_run_of_unlimited (r := Stale.runner)
    (w := Stale.world) Stale.timing rfl ⟨rfl, rfl⟩ Stale.discover_tree hapart.distinct
  exact ⟨w', summary, rfl, hrun, Stale.discover_tree, hapart,
    update_run_converges rfl hrun Stale.discover_tree hapart⟩

end WorkflowCheck
