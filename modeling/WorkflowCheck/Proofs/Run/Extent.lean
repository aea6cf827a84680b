import WorkflowCheck.Proofs.Report.Stream
import WorkflowCheck.Proofs.Run.Convergence

/-! How far a run gets. It stops in the middle of nothing but a print, and the prints of a case come
before its save, so that the cases which have gone through on the streams are the ones whose
snapshots are written. -/

namespace WorkflowCheck

open Report (Streams bytesOn)

def Effect.printed? : Effect → Option Report.Print
  | .print p => some p
  | .note _ => none
  | .save .. => none

def prints (effects : List Effect) : List Report.Print := effects.filterMap Effect.printed?

@[simp] theorem prints_append (a b : List Effect) : prints (a ++ b) = prints a ++ prints b := by
  simp [prints]

@[simp] theorem prints_print (l : List Report.Print) : prints (l.map .print) = l := by
  induction l with
  | nil => rfl
  | cons p rest ih => exact congrArg (p :: ·) ih

@[simp] theorem prints_note (notices : List Notice) : prints (notices.map .note) = [] := by
  simp [prints, Effect.printed?]

@[simp] theorem prints_nil : prints [] = [] := rfl

@[simp] theorem prints_cons_save (path : Bytes) (text : String) (rest : List Effect) :
    prints (.save path text :: rest) = prints rest := rfl

@[simp] theorem prints_cons_note (n : Notice) (rest : List Effect) :
    prints (.note n :: rest) = prints rest := rfl

@[simp] theorem Outcome.prints_persist (o : Outcome) (mode : Mode) :
    prints (o.persist mode).effects = [] := by
  unfold persist
  split <;> rfl

namespace World

variable {w v : World} {a b : List Effect}

/-- Without a save a run does to the streams what printing alone does. -/
theorem exists_performAll_of_saves_nil (w : World) (h : saves a = []) :
    ∃ notices, w.performAll a = (⟨w.tree, (w.streams.printAll (prints a)).1, notices⟩,
      (w.streams.printAll (prints a)).2.map .output) := by
  induction a generalizing w with
  | nil => exact ⟨w.notices, rfl⟩
  | cons e rest ih =>
    cases e with
    | print p =>
      have hprints : prints (.print p :: rest) = p :: prints rest := rfl
      rw [hprints, Streams.printAll, performAll, perform]
      by_cases hp : w.streams.fits p
      · rw [if_pos hp, if_pos hp]
        exact ih _ h
      · rw [if_neg hp, if_neg hp]
        exact ⟨w.notices, rfl⟩
    | note n => exact ih _ h
    | save path text => simp at h

theorem performAll_note (w : World) (notices : List Notice) (effects : List Effect) :
    w.performAll (notices.map .note ++ effects) =
      { w with notices := w.notices ++ notices }.performAll effects := by
  induction notices generalizing w with
  | nil => simp
  | cons n rest ih => simp [performAll, perform, ih]

end World

theorem snapshotMatches_of_ne {expected actual : String} (h : expected ≠ actual) :
    snapshotMatches expected actual = false :=
  beq_false_of_ne h

theorem Mode.eq_check_or_eq_update (mode : Mode) : mode = .check ∨ mode = .update := by
  cases mode
  · exact .inl rfl
  · exact .inr rfl

namespace Runner

variable (r : Runner)

def mismatched (c : FixtureCase) : Bool := !snapshotMatches c.snapshotText (r.newSnapshot c)

def rewritten (c : FixtureCase) : Bytes × String := (c.snapshot, r.newSnapshot c)

/-- All that an update run prints for a case. -/
def shownFor (c : FixtureCase) : List Report.Print :=
  Report.header r.palette c.document c.kind ++ Report.outputStart r.palette ++
    Report.outputEnd r.palette ++
    Report.status r.palette .update (!r.mismatched c) c.snapshotText (r.newSnapshot c) ++
    if r.mismatched c then Report.updating r.palette c.document else []

/-- The text before the status of a case. -/
def opening (c : FixtureCase) : String :=
  r.palette.paint .bold (" > " ++ Text.display c.document ++ " ") ++
    r.palette.paint (.strong .grey) ("(" ++ c.kind.name ++ " file)") ++ "\n\n" ++
    r.palette.paint (.strong .grey) "=== OUTPUT START ===" ++ "\n" ++
    r.palette.paint (.strong .grey) "=== OUTPUT END ===" ++ "\n"

theorem encode_blank_lines : Text.encode "\n\n\n" = Text.encode "\n" ++ Text.encode "\n\n" := rfl

theorem bytesOn_shownFor_of_matched {c : FixtureCase} (h : c.snapshotText = r.newSnapshot c) :
    bytesOn .out (r.shownFor c) = Text.encode (r.opening c ++
      r.palette.paint (.strong .green) "\n   SNAPSHOT MATCHED" ++ "\n\n\n") ∧
    bytesOn .err (r.shownFor c) = [] := by
  simp [shownFor, opening, mismatched, snapshotMatches, h, bytesOn, Report.header,
    Report.outputStart, Report.outputEnd, Report.status, Report.statusLine, Text.encode_append,
    encode_blank_lines]

/-- The last line before a snapshot is written says that it will be. -/
theorem bytesOn_shownFor_of_mismatched {c : FixtureCase} (h : c.snapshotText ≠ r.newSnapshot c) :
    bytesOn .out (r.shownFor c) = Text.encode (r.opening c ++
      r.palette.paint (.strong .yellow) "\n   SNAPSHOT MISMATCH\n" ++ "\n" ++
      Report.legend r.palette ++ "\n\n\n" ++
      r.palette.paint (.strong .yellow) ("Updating snapshot for " ++ Text.display c.document) ++
      "\n") ∧
    bytesOn .err (r.shownFor c) = Text.encode
      (Report.render r.palette (Diff.compare c.snapshotText (r.newSnapshot c)) ++ "\n") := by
  simp [shownFor, opening, mismatched, snapshotMatches_of_ne h, bytesOn, Report.header,
    Report.outputStart, Report.outputEnd, Report.status, Report.statusLine, Report.difference,
    Report.mismatchColor, Report.updating, Text.encode_append, encode_blank_lines]

theorem prints_showing (mode : Mode) (c : FixtureCase) :
    prints (r.showing mode c) = Report.header r.palette c.document c.kind ++
      Report.outputStart r.palette ++ Report.outputEnd r.palette ++
      Report.status r.palette mode (!r.mismatched c) c.snapshotText (r.newSnapshot c) ++
      if r.mismatched c then r.notification mode c.document else [] := by
  cases h : snapshotMatches c.snapshotText (r.newSnapshot c) <;>
    simp [mismatched, showing, examination, h]

theorem prints_showing_update (c : FixtureCase) : prints (r.showing .update c) = r.shownFor c :=
  r.prints_showing .update c

theorem effects_persist_update (c : FixtureCase) : ((r.examined c).persist .update).effects =
    if r.mismatched c then
      [.save c.snapshot (r.newSnapshot c),
        .note (.saved (r.newSnapshot c).utf8ByteSize c.snapshot)]
    else [] := by
  cases h : snapshotMatches c.snapshotText (r.newSnapshot c) <;>
    simp [mismatched, Outcome.persist, h]

section

variable {r} {t : FileTree} {c : FixtureCase} {cases : List FixtureCase} {w : World}

/-- The files that some cases lead to hold the new snapshots of such cases, and all others are as
before. -/
theorem writeAll_rewritten (hfiles : ∀ c ∈ cases, t.isFile c.snapshot = true) :
    ∃ f, t.writeAll (cases.map r.rewritten) = .ok (t.refill f) ∧
      (∀ p, some p ∉ snapshotPlaces t cases → f p = id) ∧
      ∀ p, some p ∈ snapshotPlaces t cases → ∃ c ∈ cases, t.place? c.snapshot = some p ∧
        ∀ old, f p old = Text.encode (r.newSnapshot c) := by
  induction cases generalizing t with
  | nil =>
    exact ⟨fun _ content => content, congrArg Except.ok t.refill_id.symm, fun _ _ => rfl,
      fun _ hp => absurd hp List.not_mem_nil⟩
  | cons c rest ih =>
    rw [List.forall_mem_cons] at hfiles
    obtain ⟨p, old, hp⟩ := FileTree.isFile_eq_true.mp hfiles.1
    let f := FileTree.overwrite p (Text.encode (r.newSnapshot c))
    have hrest : ∀ d ∈ rest, (t.refill f).isFile d.snapshot = true := fun d hd =>
      (FileTree.isFile_refill t f _).trans (hfiles.2 d hd)
    obtain ⟨g, hg, hkept, hwritten⟩ := ih hrest
    simp only [snapshotPlaces_refill, FileTree.place?_refill] at hkept hwritten
    have hplace : t.place? c.snapshot = some p := FileTree.place?_of_entry hp
    refine ⟨fun q old => g q (f q old), ?_, ?_, ?_⟩
    · have hwrite : t.writeText c.snapshot (r.newSnapshot c) = .ok (t.refill f) :=
        FileTree.write_eq_refill hp _
      rw [List.map_cons, rewritten, FileTree.writeAll, hwrite, ← FileTree.refill_refill t f g]
      exact hg
    · intro q hq
      rw [snapshotPlaces_cons, List.mem_cons, not_or, hplace] at hq
      have hne : q ≠ p := fun he => hq.1 (congrArg some he)
      funext old
      simp [hkept q hq.2, f, FileTree.overwrite, hne]
    · intro q hq
      -- A later case may lead to the same file: then its snapshot is the one that stays.
      by_cases hlater : some q ∈ snapshotPlaces t rest
      · obtain ⟨d, hd, hdq, hcontent⟩ := hwritten q hlater
        exact ⟨d, List.mem_cons_of_mem _ hd, hdq, fun old => hcontent _⟩
      · rw [snapshotPlaces_cons, hplace] at hq
        obtain rfl : q = p := Option.some.inj ((List.mem_cons.mp hq).resolve_right hlater)
        refine ⟨c, List.mem_cons_self, hplace, fun old => ?_⟩
        show g q (f q old) = _
        rw [hkept q hlater]
        exact if_pos rfl

/-- A case goes through whole, with its snapshot written if that does not match, -/
theorem performAll_case_of_shown (hfile : w.tree.isFile c.snapshot = true)
    (hshown : (w.streams.printAll (r.shownFor c)).2 = none) :
    ∃ f notices, w.tree.writeAll (([c].filter r.mismatched).map r.rewritten) = .ok (w.tree.refill f) ∧
      w.performAll (r.caseEffects .update c) =
        (⟨w.tree.refill f, (w.streams.printAll (r.shownFor c)).1, notices⟩, none) := by
  obtain ⟨notices, hperform⟩ := w.exists_performAll_of_saves_nil (r.saves_showing .update c)
  rw [prints_showing_update, hshown] at hperform
  rw [caseEffects_eq, World.performAll_append_of_ok hperform, effects_persist_update]
  by_cases hm : r.mismatched c
  · have hfiles : ∀ d ∈ [c], w.tree.isFile d.snapshot = true := by simpa using hfile
    obtain ⟨f, hwrite, -⟩ := writeAll_rewritten (r := r) hfiles
    refine ⟨f, notices ++ [.saved (r.newSnapshot c).utf8ByteSize c.snapshot], ?_, ?_⟩
    · simpa [hm] using hwrite
    · rw [List.map_singleton, rewritten, FileTree.writeAll_singleton] at hwrite
      simp [hm, World.performAll, World.perform, hwrite]
  · refine ⟨fun _ content => content, notices, ?_, ?_⟩
    · rw [FileTree.refill_id]
      simp [hm, FileTree.writeAll]
    · rw [FileTree.refill_id]
      simp [hm, World.performAll]

/-- or the run ends in it, and its snapshot stays as it was. -/
theorem performAll_case_of_not_shown {cause : IoFault}
    (hshown : (w.streams.printAll (r.shownFor c)).2 = some cause) :
    ∃ notices, w.performAll (r.caseEffects .update c) =
      (⟨w.tree, (w.streams.printAll (r.shownFor c)).1, notices⟩, some (.output cause)) := by
  obtain ⟨notices, hperform⟩ := w.exists_performAll_of_saves_nil (r.saves_showing .update c)
  rw [prints_showing_update, hshown] at hperform
  rw [caseEffects_eq]
  exact ⟨notices, World.performAll_append_of_error hperform⟩

theorem performAll_cases (hfiles : ∀ c ∈ cases, w.tree.isFile c.snapshot = true) :
    ∃ n u notices, w.performAll (cases.flatMap (r.caseEffects .update)) =
        (⟨u, (w.streams.printAll (cases.flatMap r.shownFor)).1, notices⟩,
          (w.streams.printAll (cases.flatMap r.shownFor)).2.map .output) ∧
      w.tree.writeAll (((cases.take n).filter r.mismatched).map r.rewritten) = .ok u ∧
      ∀ i < cases.length,
        i < n ↔ (w.streams.printAll ((cases.take (i + 1)).flatMap r.shownFor)).2 = none := by
  induction cases generalizing w with
  | nil => exact ⟨0, w.tree, w.notices, rfl, rfl, fun i hi => absurd hi (Nat.not_lt_zero i)⟩
  | cons c rest ih =>
    rw [List.forall_mem_cons] at hfiles
    rw [List.flatMap_cons, List.flatMap_cons, Streams.printAll_append]
    cases hshown : (w.streams.printAll (r.shownFor c)).2 with
    | none =>
      obtain ⟨f, notices, hwrite, hperform⟩ := performAll_case_of_shown hfiles.1 hshown
      -- Only contents have changed, so the snapshots of the other cases are still files.
      have hrest : ∀ d ∈ rest, (w.tree.refill f).isFile d.snapshot = true := fun d hd =>
        (FileTree.isFile_refill w.tree f _).trans (hfiles.2 d hd)
      obtain ⟨n, u, notices', hperform', hwrite', hn⟩ :=
        ih (w := ⟨w.tree.refill f, (w.streams.printAll (r.shownFor c)).1, notices⟩) hrest
      refine ⟨n + 1, u, notices', ?_, ?_, ?_⟩
      · rw [World.performAll_append_of_ok hperform, hperform', if_pos rfl]
      · rw [List.take_succ_cons, ← List.singleton_append, List.filter_append, List.map_append,
          FileTree.writeAll_append, hwrite]
        exact hwrite'
      · intro i hi
        rw [List.take_succ_cons, List.flatMap_cons, Streams.printAll_append, if_pos hshown]
        cases i with
        | zero => simp [Streams.printAll]
        | succ i => exact Nat.succ_lt_succ_iff.trans (hn i (Nat.lt_of_succ_lt_succ hi))
    | some cause =>
      obtain ⟨notices, hperform⟩ := performAll_case_of_not_shown hshown
      refine ⟨0, w.tree, notices, ?_, rfl, ?_⟩
      · rw [World.performAll_append_of_error hperform, if_neg (Option.some_ne_none _), hshown]
        rfl
      · intro i hi
        rw [List.take_succ_cons, List.flatMap_cons, Streams.printAll_append, hshown,
          if_neg (Option.some_ne_none _), hshown]
        simp

variable {config : RunConfig} {timing : Timing}

theorem run_of_cases (r : Runner) (timing : Timing)
    (hcases : (Discovery.discover w.tree config.root config.snapshotFile).result = .ok cases) :
    ∃ (notices : List Notice) (summary : Summary), r.run config timing w =
      { w with notices := notices }.follow
        ⟨cases.flatMap (r.caseEffects config.mode), .ok summary⟩ := by
  rw [run, plan_of_found timing hcases, World.follow, World.performAll_note]
  exact ⟨_, _, rfl⟩

theorem tree_of_run_of_saves_nil (hsaves : saves (r.plan config timing w.tree).effects = []) :
    (r.run config timing w).1.tree = w.tree := by
  rw [run, World.follow_fst]
  exact (w.performAll_of_saves_nil hsaves).1

theorem tree_of_check_run (hmode : config.mode = .check)
    (hcases : (Discovery.discover w.tree config.root config.snapshotFile).result = .ok cases) :
    (r.run config timing w).1.tree = w.tree := by
  refine tree_of_run_of_saves_nil ?_
  rw [saves_plan hcases, hmode, List.flatMap_eq_nil_iff]
  exact fun c _ => saves_caseEffects_check c

theorem run_of_failed_discovery {failure : Failure}
    (h : (Discovery.discover w.tree config.root config.snapshotFile).result = .error failure) :
    r.run config timing w =
      ({ w with notices := w.notices ++
          (Discovery.discover w.tree config.root config.snapshotFile).notices }, .error failure) := by
  rw [run, plan_of_failed timing h, World.follow, ← List.append_nil (List.map _ _),
    World.performAll_note]
  rfl

theorem tree_of_failed_discovery {failure : Failure}
    (h : (Discovery.discover w.tree config.root config.snapshotFile).result = .error failure) :
    (r.run config timing w).1.tree = w.tree := by
  rw [run_of_failed_discovery h]

theorem isFile_snapshot {snapshotFile root : Bytes}
    (hcases : (Discovery.discover t root snapshotFile).result = .ok cases) (hc : c ∈ cases) :
    t.isFile c.snapshot = true := by
  obtain ⟨_, hf⟩ := Discovery.exists_found_of_mem hcases hc
  obtain ⟨p, hp⟩ := FileTree.read_eq_ok.mp (FileTree.readText_eq_ok.mp hf.snapshotText)
  exact FileTree.isFile_eq_true.mpr ⟨p, _, hp⟩

/-- An update run writes the snapshots of the cases that have gone through, and of all if it
succeeds. -/
theorem exists_saved_of_update_run (r : Runner) (timing : Timing) (hmode : config.mode = .update)
    (hcases : (Discovery.discover w.tree config.root config.snapshotFile).result = .ok cases) :
    ∃ n, w.tree.writeAll (((cases.take n).filter r.mismatched).map r.rewritten) =
        .ok (r.run config timing w).1.tree ∧
      (r.run config timing w).1.streams = (w.streams.printAll (cases.flatMap r.shownFor)).1 ∧
      (∀ i < cases.length,
        i < n ↔ (w.streams.printAll ((cases.take (i + 1)).flatMap r.shownFor)).2 = none) ∧
      ∀ summary, (r.run config timing w).2 = .ok summary → cases.take n = cases := by
  have hfiles : ∀ c ∈ cases, w.tree.isFile c.snapshot = true := fun c hc => isFile_snapshot hcases hc
  obtain ⟨notices, summary, hrun⟩ := run_of_cases r timing hcases
  obtain ⟨n, u, notices', hperform, hwrite, hn⟩ :=
    performAll_cases (r := r) (w := { w with notices := notices }) hfiles
  rw [hrun, World.follow, hmode, hperform]
  refine ⟨n, ?_⟩
  cases hall : (w.streams.printAll (cases.flatMap r.shownFor)).2 with
  | some cause =>
    refine ⟨hwrite, rfl, hn, fun summary h => ?_⟩
    cases h
  | none =>
    refine ⟨hwrite, rfl, hn, fun _ _ => List.take_of_length_le (Nat.le_of_not_lt fun hlt => ?_)⟩
    -- A case that was left out would have stopped the printing before the end.
    have hlast := (hn n hlt).not.mp (lt_irrefl n)
    rw [← List.take_append_drop (n + 1) cases, List.flatMap_append, Streams.printAll_append,
      if_neg hlast] at hall
    exact hlast hall

/-- What a run over some cases leaves behind, with `saved` the cases whose snapshots it has
written. -/
structure Left (r : Runner) (mode : Mode) (t : FileTree) (cases saved : List FixtureCase)
    (after : World × Except Failure Summary) : Prop where
  ordered : saved <+: cases.filter r.mismatched
  written : t.writeAll (saved.map r.rewritten) = .ok after.1.tree
  others : t.EqOutside (snapshotPlaces t saved) after.1.tree
  checked : mode = .check → saved = []
  /-- A case is among the first `n` if the streams hold all that is printed for it and before it. -/
  shown : mode = .update → ∃ n, saved = (cases.take n).filter r.mismatched ∧
    ∀ i < cases.length, i < n ↔ after.1.streams.Holds ((cases.take (i + 1)).flatMap r.shownFor)
  whole : mode = .update → ∀ summary, after.2 = .ok summary → saved = cases.filter r.mismatched

theorem left_of_check_run (hmode : config.mode = .check)
    (hcases : (Discovery.discover w.tree config.root config.snapshotFile).result = .ok cases) :
    Left r config.mode w.tree cases [] (r.run config timing w) := by
  have htree : (r.run config timing w).1.tree = w.tree := tree_of_check_run hmode hcases
  constructor
  case ordered => exact List.nil_prefix
  case written => exact congrArg Except.ok htree.symm
  case others => exact ⟨fun _ content => content, htree.trans w.tree.refill_id.symm, fun _ _ => rfl⟩
  case checked => exact fun _ => rfl
  case shown => exact fun h => nomatch hmode.symm.trans h
  case whole => exact fun h => nomatch hmode.symm.trans h

theorem exists_left_of_update_run (hmode : config.mode = .update) (hwithin : w.streams.Within)
    (hempty : ∀ channel, (w.streams.stream channel).written = [])
    (hcases : (Discovery.discover w.tree config.root config.snapshotFile).result = .ok cases) :
    ∃ saved, Left r config.mode w.tree cases saved (r.run config timing w) := by
  obtain ⟨n, hwrite, hstreams, hn, hok⟩ := exists_saved_of_update_run r timing hmode hcases
  have hfiles : ∀ c ∈ (cases.take n).filter r.mismatched, w.tree.isFile c.snapshot = true :=
    fun c hc => isFile_snapshot hcases (List.mem_of_mem_take (List.mem_of_mem_filter hc))
  obtain ⟨f, hf, hkept, -⟩ := writeAll_rewritten (r := r) hfiles
  refine ⟨(cases.take n).filter r.mismatched, ?_⟩
  constructor
  case ordered => exact (List.take_prefix n cases).filter _
  case written => exact hwrite
  case others => exact ⟨f, Except.ok.inj (hwrite.symm.trans hf), hkept⟩
  case checked => exact fun h => nomatch hmode.symm.trans h
  case shown =>
    refine fun _ => ⟨n, rfl, fun i hi => (hn i hi).trans ?_⟩
    have hsplit : cases.flatMap r.shownFor = (cases.take (i + 1)).flatMap r.shownFor ++
        (cases.drop (i + 1)).flatMap r.shownFor := by
      rw [← List.flatMap_append, List.take_append_drop]
    rw [hstreams, hsplit]
    exact Streams.printAll_eq_none_iff hwithin hempty _ _
  case whole =>
    intro _ summary h
    rw [hok summary h]

end

/-- However a run ends, the tree has changed by whole snapshots of mismatched cases, written one
after the other, and no snapshot is written before all that there is to show for it. -/
theorem run_writes_what_it_shows (r : Runner) (config : RunConfig) (timing : Timing) (t : FileTree)
    (out err : Option Nat) (notices : List Notice) :
    let after := r.run config timing ⟨t, .ofLimits out err, notices⟩
    match (Discovery.discover t config.root config.snapshotFile).result with
    | .error _ => after.1.tree = t
    | .ok cases => ∃ saved, Left r config.mode t cases saved after := by
  intro after
  let w : World := ⟨t, .ofLimits out err, notices⟩
  split
  · next failure hfailed => exact tree_of_failed_discovery (w := w) hfailed
  · next cases hcases =>
    rcases Mode.eq_check_or_eq_update config.mode with hmode | hmode
    · exact ⟨[], left_of_check_run (w := w) hmode hcases⟩
    · have hwithin := Streams.within_ofLimits out err
      have hempty := Streams.written_ofLimits out err
      exact exists_left_of_update_run (w := w) hmode hwithin hempty hcases

end Runner

/-- The line on the stale snapshot ends with byte 190. A stream that takes one byte less keeps the
snapshot from being written, and one that takes no more does not. -/
theorem stale_run_cut :
    let after (limit : Nat) := Stale.runner.run Stale.config Stale.timing
      ⟨Stale.tree, .ofLimits (some limit) none, []⟩
    (after 189).1.tree = Stale.tree ∧
      Stale.tree.writeText Stale.first.snapshot (Stale.runner.newSnapshot Stale.first) =
        .ok (after 190).1.tree := by
  intro after
  have hleft (limit : Nat) : ∃ n, Runner.Left Stale.runner .update Stale.tree Stale.cases
      ((Stale.cases.take n).filter Stale.runner.mismatched) (after limit) ∧
      (0 < n ↔ (Streams.printAll (.ofLimits (some limit) none)
        (Stale.runner.shownFor Stale.first)).2 = none) := by
    have h := Stale.runner.run_writes_what_it_shows Stale.config Stale.timing Stale.tree
      (some limit) none []
    rw [Stale.discover_tree] at h
    obtain ⟨saved, hsaved⟩ := h
    obtain ⟨n, rfl, hn⟩ := hsaved.shown rfl
    obtain ⟨-, -, hstreams, -⟩ := Runner.exists_saved_of_update_run Stale.runner Stale.timing
      (w := ⟨Stale.tree, .ofLimits (some limit) none, []⟩) rfl Stale.discover_tree
    refine ⟨n, hsaved, (hn 0 (by decide)).trans ?_⟩
    rw [hstreams]
    exact (Streams.printAll_eq_none_iff (Streams.within_ofLimits _ _)
      (Streams.written_ofLimits _ _) _ _).symm
  have hstale : Stale.runner.mismatched Stale.first = true := by decide +kernel
  have hmatched : Stale.runner.mismatched Stale.second = false := by decide +kernel
  constructor
  · obtain ⟨n, h, hn⟩ := hleft 189
    have hcut : (Streams.printAll (.ofLimits (some 189) none)
        (Stale.runner.shownFor Stale.first)).2 ≠ none := by decide +kernel
    obtain rfl : n = 0 := Nat.eq_zero_of_not_pos fun hpos => hcut (hn.mp hpos)
    exact (Except.ok.inj h.written).symm
  · obtain ⟨n, h, hn⟩ := hleft 190
    have hwhole : (Streams.printAll (.ofLimits (some 190) none)
        (Stale.runner.shownFor Stale.first)).2 = none := by decide +kernel
    obtain ⟨m, rfl⟩ := Nat.exists_eq_succ_of_ne_zero (hn.mpr hwhole).ne'
    have hsaved : (Stale.cases.take (m + 1)).filter Stale.runner.mismatched = [Stale.first] := by
      cases m <;> simp [Stale.cases, hstale, hmatched]
    have hwritten := h.written
    rw [hsaved] at hwritten
    exact (FileTree.writeAll_singleton _ _ _).symm.trans hwritten

end WorkflowCheck
