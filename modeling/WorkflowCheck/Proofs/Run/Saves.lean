import WorkflowCheck.Proofs.Run.Plan

/-! What a run leaves on disk. Of its effects only the saves touch the tree, so that a run which
comes to its end has written its saves one after the other, and one without saves has written
nothing. -/

namespace WorkflowCheck

def Effect.saved? : Effect → Option (Bytes × String)
  | .save path text => some (path, text)
  | .print _ => none
  | .note _ => none

def saves (effects : List Effect) : List (Bytes × String) := effects.filterMap Effect.saved?

@[simp] theorem saves_nil : saves [] = [] := rfl

@[simp] theorem saves_cons_note (n : Notice) (rest : List Effect) :
    saves (.note n :: rest) = saves rest := rfl

@[simp] theorem saves_cons_save (path : Bytes) (text : String) (rest : List Effect) :
    saves (.save path text :: rest) = (path, text) :: saves rest := rfl

@[simp] theorem saves_append (a b : List Effect) : saves (a ++ b) = saves a ++ saves b := by
  simp [saves]

@[simp] theorem saves_print (prints : List Report.Print) : saves (prints.map .print) = [] := by
  simp [saves, Effect.saved?]

@[simp] theorem saves_note (notices : List Notice) : saves (notices.map .note) = [] := by
  simp [saves, Effect.saved?]

@[simp] theorem saves_flatMap {α : Type} (f : α → List Effect) (l : List α) :
    saves (l.flatMap f) = l.flatMap fun x => saves (f x) := by
  induction l with
  | nil => rfl
  | cons x xs ih => simp [ih]

@[simp] theorem Runner.saves_examination (r : Runner) (case : FixtureCase) :
    saves (r.examination case) = [] := by
  simp [examination]

@[simp] theorem Runner.saves_showing (r : Runner) (mode : Mode) (case : FixtureCase) :
    saves (r.showing mode case) = [] := by
  simp [showing]

@[simp] theorem Outcome.saves_persist (o : Outcome) (mode : Mode) :
    saves (o.persist mode).effects =
      if mode = .update && !o.matched then [(o.snapshot, o.text)] else [] := by
  unfold persist
  split <;> rfl

theorem flatMap_ite_singleton {α β : Type} (p : α → Bool) (f : α → β) (l : List α) :
    (l.flatMap fun x => if p x then [f x] else []) = (l.filter p).map f := by
  induction l with
  | nil => rfl
  | cons x rest ih => cases h : p x <;> simp [h, ih]

def FileTree.writeAll (t : FileTree) : List (Bytes × String) → Except IoFault FileTree
  | [] => .ok t
  | (path, text) :: rest => t.writeText path text >>= fun u => u.writeAll rest

theorem FileTree.writeAll_singleton (t : FileTree) (path : Bytes) (text : String) :
    t.writeAll [(path, text)] = t.writeText path text := by
  rw [writeAll]
  cases t.writeText path text <;> rfl

theorem FileTree.writeAll_append (t : FileTree) (a b : List (Bytes × String)) :
    t.writeAll (a ++ b) = t.writeAll a >>= fun u => u.writeAll b := by
  induction a generalizing t with
  | nil => rfl
  | cons e rest ih =>
    simp only [List.cons_append, writeAll, ih]
    cases t.writeText e.1 e.2 <;> rfl

def Report.Streams.Unlimited (s : Report.Streams) : Prop := s.out.limit = none ∧ s.err.limit = none

theorem Report.Streams.Unlimited.fits {s : Report.Streams} (h : s.Unlimited) (p : Report.Print) :
    s.fits p = true := by
  obtain ⟨channel, text⟩ := p
  cases channel
  · simp [Streams.fits, Streams.stream, Stream.fits, h.1]
  · simp [Streams.fits, Streams.stream, Stream.fits, h.2]

theorem Report.Streams.Unlimited.print {s : Report.Streams} (h : s.Unlimited) (p : Report.Print) :
    (s.print p).Unlimited := by
  obtain ⟨channel, text⟩ := p
  cases channel <;> exact h

namespace World

theorem writeAll_of_perform {w v : World} {e : Effect} (h : w.perform e = (v, none)) :
    w.tree.writeAll (saves [e]) = .ok v.tree := by
  cases e with
  | print p =>
    simp only [perform, Prod.mk.injEq] at h
    rw [← h.1]
    rfl
  | note n =>
    simp only [perform, Prod.mk.injEq] at h
    rw [← h.1]
    rfl
  | save path text =>
    have hs : saves [.save path text] = [(path, text)] := rfl
    rw [hs, FileTree.writeAll_singleton]
    cases ht : w.tree.writeText path text with
    | error cause => simp [perform, ht] at h
    | ok u =>
      simp only [perform, ht, Prod.mk.injEq, and_true] at h
      rw [← h]

theorem writeAll_of_performAll {w w' : World} {effects : List Effect}
    (h : w.performAll effects = (w', none)) :
    w.tree.writeAll (saves effects) = .ok w'.tree := by
  induction effects generalizing w with
  | nil =>
    simp only [performAll, Prod.mk.injEq, and_true] at h
    rw [h]
    rfl
  | cons e rest ih =>
    obtain ⟨v, he, hr⟩ := performAll_cons_ok.mp h
    rw [← List.singleton_append, saves_append, FileTree.writeAll_append, writeAll_of_perform he,
      ok_bind, ih hr]

/-- Without a save the tree stays as it is, and nothing fails but a stream that is full. -/
theorem performAll_of_saves_nil (w : World) {effects : List Effect} (h : saves effects = []) :
    (w.performAll effects).1.tree = w.tree ∧
      ((w.performAll effects).2 = none ∨ (w.performAll effects).2 = some (.output .full)) := by
  induction effects generalizing w with
  | nil => exact ⟨rfl, .inl rfl⟩
  | cons e rest ih =>
    rw [← List.singleton_append, saves_append, List.append_eq_nil_iff] at h
    have hr := fun v : World => ih v h.2
    cases e with
    | print p =>
      by_cases hp : w.streams.fits p
      · simpa [performAll, perform, hp] using hr { w with streams := w.streams.print p }
      · simp [performAll, perform, hp]
    | note n => exact hr { w with notices := w.notices ++ [n] }
    | save path text => simp [saves, Effect.saved?] at h

/-- With room for all output, what can be written is written. -/
theorem performAll_of_unlimited (w : World) {effects : List Effect} {u : FileTree}
    (h : w.tree.writeAll (saves effects) = .ok u) (hu : w.streams.Unlimited) :
    (w.performAll effects).2 = none := by
  induction effects generalizing w with
  | nil => rfl
  | cons e rest ih =>
    cases e with
    | print p =>
      simpa [performAll, perform, hu.fits p] using
        ih { w with streams := w.streams.print p } h (hu.print p)
    | note n => exact ih { w with notices := w.notices ++ [n] } h hu
    | save path text =>
      rw [saves_cons_save, FileTree.writeAll, bind_eq_ok] at h
      obtain ⟨v, hv, hrest⟩ := h
      simpa [performAll, perform, hv] using ih { w with tree := v } hrest hu

end World

end WorkflowCheck
