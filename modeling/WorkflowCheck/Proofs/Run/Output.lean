import WorkflowCheck.Proofs.Run.Extent

/-! What comes out of the streams in a run that goes on to its end: the prints among its effects, in
their order, whatever is noted and saved between them. -/

namespace WorkflowCheck

open Report (Channel Print bytesOn)

namespace Report

variable {α : Type}

theorem bytesOn_append (channel : Channel) (a b : List Print) :
    bytesOn channel (a ++ b) = bytesOn channel a ++ bytesOn channel b :=
  List.flatMap_append

theorem bytesOn_flatMap (channel : Channel) (f : α → List Print) (l : List α) :
    bytesOn channel (l.flatMap f) = l.flatMap fun x => bytesOn channel (f x) :=
  List.flatMap_assoc

theorem Streams.Unlimited.printAll {s : Streams} (h : s.Unlimited) (prints : List Print) :
    (s.printAll prints).2 = none ∧ (s.printAll prints).1.Unlimited := by
  induction prints generalizing s with
  | nil => exact ⟨rfl, h⟩
  | cons p rest ih =>
    rw [Streams.printAll, if_pos (h.fits p)]
    exact ih (h.print p)

end Report

@[simp] theorem prints_flatMap {α : Type} (f : α → List Effect) (l : List α) :
    prints (l.flatMap f) = l.flatMap fun x => prints (f x) := by
  induction l with
  | nil => rfl
  | cons x xs ih => rw [List.flatMap_cons, prints_append, ih, List.flatMap_cons]

namespace World

variable {w w' : World} {effects : List Effect}

/-- What has come out of a stream. -/
def output (w : World) (channel : Channel) : Bytes := (w.streams.stream channel).written

theorem perform_print_eq_ok {print : Print} : w.perform (.print print) = (w', none) ↔
    w.streams.fits print = true ∧ w' = { w with streams := w.streams.print print } := by
  rw [perform]
  cases w.streams.fits print <;> simp [eq_comm]

theorem perform_save_eq_ok {path : Bytes} {text : String} :
    w.perform (.save path text) = (w', none) ↔
      ∃ tree, w.tree.writeText path text = .ok tree ∧ w' = { w with tree := tree } := by
  rw [perform]
  cases w.tree.writeText path text <;> simp [eq_comm]

theorem output_print_of_fits {print : Print} (h : w.streams.fits print = true) (channel : Channel) :
    ({ w with streams := w.streams.print print } : World).output channel =
      w.output channel ++ bytesOn channel [print] :=
  Report.Streams.written_print_of_fits h channel

theorem output_of_perform {e : Effect} (h : w.perform e = (w', none)) (channel : Channel) :
    w'.output channel = w.output channel ++ bytesOn channel (prints [e]) := by
  cases e with
  | print print =>
    obtain ⟨hfits, rfl⟩ := perform_print_eq_ok.mp h
    exact output_print_of_fits hfits channel
  | note n =>
    cases h
    exact (List.append_nil _).symm
  | save path text =>
    obtain ⟨tree, -, rfl⟩ := perform_save_eq_ok.mp h
    exact (List.append_nil _).symm

theorem output_of_performAll (h : w.performAll effects = (w', none)) (channel : Channel) :
    w'.output channel = w.output channel ++ bytesOn channel (prints effects) := by
  induction effects generalizing w with
  | nil =>
    cases h
    exact (List.append_nil _).symm
  | cons e rest ih =>
    obtain ⟨u, he, hrest⟩ := performAll_cons_ok.mp h
    rw [ih hrest, output_of_perform he, List.append_assoc, ← Report.bytesOn_append, ← prints_append]
    rfl

theorem unlimited_of_perform {e : Effect} (hu : w.streams.Unlimited)
    (h : w.perform e = (w', none)) : w'.streams.Unlimited := by
  cases e with
  | print print =>
    obtain ⟨-, rfl⟩ := perform_print_eq_ok.mp h
    exact hu.print print
  | note n =>
    cases h
    exact hu
  | save path text =>
    obtain ⟨tree, -, rfl⟩ := perform_save_eq_ok.mp h
    exact hu

theorem unlimited_of_performAll (hu : w.streams.Unlimited)
    (h : w.performAll effects = (w', none)) : w'.streams.Unlimited := by
  induction effects generalizing w with
  | nil =>
    cases h
    exact hu
  | cons e rest ih =>
    obtain ⟨u, he, hrest⟩ := performAll_cons_ok.mp h
    exact ih (unlimited_of_perform hu he) hrest

/-- With room for all output, effects do to a world what they do to its tree and its streams. -/
theorem exists_performAll (hu : w.streams.Unlimited) {t : FileTree}
    (h : w.tree.writeAll (saves effects) = .ok t) :
    ∃ w', w.performAll effects = (w', none) ∧ w'.tree = t ∧ w'.streams.Unlimited ∧
      ∀ channel, w'.output channel = w.output channel ++ bytesOn channel (prints effects) := by
  have hperform : w.performAll effects = ((w.performAll effects).1, none) :=
    Prod.ext rfl (w.performAll_of_unlimited h hu)
  have htree := writeAll_of_performAll hperform
  rw [h, Except.ok.injEq] at htree
  exact ⟨_, hperform, htree.symm, unlimited_of_performAll hu hperform,
    output_of_performAll hperform⟩

/-- Streams without limits that nothing has been written to hold all that is printed in the end. -/
theorem exists_performAll_of_unlimited (t : FileTree) (notices : List Notice) {u : FileTree}
    (h : t.writeAll (saves effects) = .ok u) :
    ∃ w', performAll ⟨t, .ofLimits none none, notices⟩ effects = (w', none) ∧
      ∀ channel, w'.output channel = bytesOn channel (prints effects) := by
  let w : World := ⟨t, .ofLimits none none, notices⟩
  have hempty : ∀ channel, w.output channel = [] := Report.Streams.written_ofLimits none none
  obtain ⟨w', hperform, -, -, houtput⟩ := exists_performAll (w := w) ⟨rfl, rfl⟩ h
  refine ⟨w', hperform, fun channel => ?_⟩
  rw [houtput, hempty, List.nil_append]

theorem performAll_append_eq_ok {a b : List Effect} : w.performAll (a ++ b) = (w', none) ↔
    ∃ u, w.performAll a = (u, none) ∧ u.performAll b = (w', none) := by
  rcases ha : w.performAll a with ⟨u, _ | failure⟩
  · rw [performAll_append_of_ok ha]
    simp
  · rw [performAll_append_of_error ha]
    simp

end World

namespace Runner

/-- What a run prints for one of its cases. -/
def report (r : Runner) (mode : Mode) (c : FixtureCase) : List Print := prints (r.caseEffects mode c)

theorem report_eq (r : Runner) (mode : Mode) (c : FixtureCase) :
    r.report mode c = Report.header r.palette c.document c.kind ++ Report.outputStart r.palette ++
      Report.outputEnd r.palette ++
      Report.status r.palette mode (!r.mismatched c) c.snapshotText (r.newSnapshot c) ++
      if r.mismatched c then r.notification mode c.document else [] := by
  rw [report, caseEffects_eq, prints_append, Outcome.prints_persist, List.append_nil,
    prints_showing]

theorem report_update (r : Runner) (c : FixtureCase) : r.report .update c = r.shownFor c :=
  r.report_eq .update c

theorem length_header_le (r : Runner) (mode : Mode) (c : FixtureCase) (channel : Channel) :
    (bytesOn channel (Report.header r.palette c.document c.kind)).length ≤
      (bytesOn channel (r.report mode c)).length := by
  simp only [report_eq, List.append_assoc, Report.bytesOn_append, List.length_append]
  omega

theorem prints_plan {r : Runner} {config : RunConfig} {t : FileTree} {cases : List FixtureCase}
    (h : (Discovery.discover t config.root config.snapshotFile).result = .ok cases)
    (timing : Timing) :
    prints (r.plan config timing t).effects = cases.flatMap (r.report config.mode) := by
  rw [plan_of_found timing h, prints_append, prints_note, List.nil_append, prints_flatMap]
  rfl

end Runner

end WorkflowCheck
