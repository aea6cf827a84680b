import Mathlib.Data.List.Chain
import WorkflowCheck.Proofs.Diff.Alignment
import WorkflowCheck.Proofs.Diff.WholeLines

/-! The form of every comparison. Between two common segments there is a removal, an addition, or a
removal and then an addition: the walk removes first where it loses nothing by it, and once it has
added a line because it would lose by removing, it goes on adding until the next common line. -/

namespace WorkflowCheck.Diff

variable {segments : List Segment}

/-- No addition has a removal right after it. -/
def Ordered (segments : List Segment) : Prop :=
  segments.IsChain fun s t => ¬(s.kind = .added ∧ t.kind = .removed)

theorem ordered_map (kind : SegmentKind) (ls : List String) : Ordered (ls.map (⟨kind, ·⟩)) := by
  induction ls with
  | nil => exact .nil
  | cons l ls ih =>
    refine List.isChain_cons.mpr ⟨fun t ht => ?_, ih⟩
    have hkind : t.kind = kind := by
      cases ls with
      | nil => simp at ht
      | cons k ks =>
        obtain rfl : ⟨kind, k⟩ = t := by simpa using ht
        rfl
    rintro ⟨rfl, hremoved⟩
    exact nomatch hkind.symm.trans hremoved

/-- Where an addition keeps more lines than a removal would, the next line is not removed: without
the added line a removal would keep as many again. -/
theorem head_align_ne_removed {x y : String} {a b : List String}
    (h : longest a (y :: b) < longest (x :: a) b) {s : Segment}
    (hs : s ∈ (align (x :: a) b).head?) : s.kind ≠ .removed := by
  cases b with
  | nil => simp at h
  | cons z b =>
    rw [align] at hs
    by_cases hxz : x = z
    · obtain rfl : ⟨.common, x⟩ = s := by simpa [hxz] using hs
      simp
    · rw [if_neg hxz] at hs
      by_cases hge : longest a (z :: b) ≥ longest (x :: a) b
      · have hle := longest_le_cons_right a (z :: b) y
        rw [longest_cons_cons, if_neg hxz] at h
        omega
      · obtain rfl : ⟨.added, z⟩ = s := by simpa [hge] using hs
        simp

theorem ordered_align (a b : List String) : Ordered (align a b) := by
  fun_induction align a b with
  | case1 b => exact ordered_map .added b
  | case2 a => exact ordered_map .removed a
  | case3 x a b ih => exact List.isChain_cons.mpr ⟨fun t _ => by simp, ih⟩
  | case4 x a y b hne hge ih => exact List.isChain_cons.mpr ⟨fun t _ => by simp, ih⟩
  | case5 x a y b hne hlt ih =>
    refine List.isChain_cons.mpr ⟨fun t ht hboth => ?_, ih⟩
    exact head_align_ne_removed (Nat.lt_of_not_le hlt) ht hboth.2

theorem ordered_lineSegments (old new : List String) : Ordered (lineSegments old new) := by
  obtain ⟨front, a, b, back, -, -, heq⟩ := exists_lineSegments old new
  rw [heq]
  refine List.isChain_append.mpr ⟨List.isChain_append.mpr ⟨ordered_map .common front,
    ordered_align a b, fun s hs t _ hboth => ?_⟩, ordered_map .common back, fun s _ t ht hboth => ?_⟩
  · obtain ⟨l, -, rfl⟩ := List.mem_map.mp (List.mem_of_getLast? hs)
    exact nomatch hboth.1
  · obtain ⟨l, -, rfl⟩ := List.mem_map.mp (List.mem_of_head? ht)
    exact nomatch hboth.2

/-- Joining neighbours leaves none of one kind, and what may follow what is as before. -/
theorem isChain_merge {R : SegmentKind → SegmentKind → Prop}
    (h : segments.IsChain fun s t => R s.kind t.kind) :
    (merge segments).IsChain fun s t => s.kind ≠ t.kind ∧ R s.kind t.kind := by
  induction segments with
  | nil => exact .nil
  | cons s rest ih =>
    have hrest := ih h.tail
    rcases merge_cons_cases s rest with ⟨rfl, hm⟩ |
      ⟨u, rest', t, ts, rfl, ht, htu, ⟨hk, hm⟩ | ⟨hk, hm⟩⟩
    · rw [hm]
      exact .singleton s
    · rw [ht, List.isChain_cons] at hrest
      rw [hm, List.isChain_cons]
      exact ⟨fun v hv => hk ▸ hrest.1 v hv, hrest.2⟩
    · rw [ht] at hrest
      rw [hm]
      have hR : R s.kind t.kind := htu ▸ (List.isChain_cons_cons.mp h).1
      exact List.isChain_cons_cons.mpr ⟨⟨hk, hR⟩, hrest⟩

theorem text_ne_empty_of_mem_merge (h : ∀ s ∈ segments, s.text ≠ "") :
    ∀ s ∈ merge segments, s.text ≠ "" := by
  induction segments with
  | nil => exact h
  | cons s rest ih =>
    rw [List.forall_mem_cons] at h
    have hrest := ih h.2
    rcases merge_cons_cases s rest with ⟨rfl, hm⟩ |
      ⟨u, rest', t, ts, rfl, ht, -, ⟨-, hm⟩ | ⟨-, hm⟩⟩
    · rw [hm]
      simpa using h.1
    · rw [ht, List.forall_mem_cons] at hrest
      rw [hm, List.forall_mem_cons]
      refine ⟨fun hempty => h.1 ?_, hrest.2⟩
      exact (String.append_eq_empty_iff.mp hempty).1
    · rw [hm, ← ht, List.forall_mem_cons]
      exact ⟨h.1, hrest⟩

theorem OfLines.text_ne_empty (h : OfLines segments) : ∀ s ∈ segments, s.text ≠ "" := by
  intro s hs hempty
  have hlines := h.lines_of_mem hs
  rw [hempty] at hlines
  exact nomatch hlines

/-- The kinds of the segments that can stand between two common ones. -/
def stretches : List (List SegmentKind) := [[], [.removed], [.added], [.removed, .added]]

/-- Of two different neighbours that are not common the first is removed. -/
theorem removed_added_of_changed {s t : Segment} (hs : s.kind ≠ .common) (ht : t.kind ≠ .common)
    (hne : s.kind ≠ t.kind) (hordered : ¬(s.kind = .added ∧ t.kind = .removed)) :
    s.kind = .removed ∧ t.kind = .added := by
  cases hk : s.kind <;> cases hl : t.kind <;> simp_all

theorem kinds_mem_stretches {stretch : List Segment}
    (halternating : stretch.IsChain fun s t => s.kind ≠ t.kind) (hordered : Ordered stretch)
    (h : ∀ s ∈ stretch, s.kind ≠ .common) : stretch.map (·.kind) ∈ stretches := by
  rcases stretch with _ | ⟨s, _ | ⟨t, rest⟩⟩
  · simp [stretches]
  · have hs := h s List.mem_cons_self
    cases hk : s.kind <;> simp_all [stretches]
  · rw [Ordered, List.isChain_cons_cons] at hordered
    rw [List.isChain_cons_cons] at halternating
    rw [List.forall_mem_cons, List.forall_mem_cons] at h
    obtain ⟨hs, ht⟩ := removed_added_of_changed h.1 h.2.1 halternating.1 hordered.1
    cases rest with
    | nil => simp [stretches, hs, ht]
    | cons u rest =>
      -- The second segment, an addition, would be the first one of the next two.
      have hu := h.2.2 u List.mem_cons_self
      obtain ⟨ht', -⟩ := removed_added_of_changed h.2.1 hu
        (List.isChain_cons_cons.mp halternating.2).1 (List.isChain_cons_cons.mp hordered.2).1
      exact nomatch ht.symm.trans ht'

/-- The segments of a comparison of two texts, as they always are. -/
structure NormalForm (segments : List Segment) (old new : String) : Prop where
  nonempty : ∀ s ∈ segments, s.text ≠ ""
  alternating : segments.IsChain fun s t => s.kind ≠ t.kind
  ordered : Ordered segments
  between : ∀ before stretch after, segments = before ++ stretch ++ after →
    (∀ s ∈ stretch, s.kind ≠ .common) → stretch.map (·.kind) ∈ stretches
  oldLines : linesOf SegmentKind.inOld segments = Text.lines old
  newLines : linesOf SegmentKind.inNew segments = Text.lines new

/-- Every comparison consists of whole lines in as few segments as can be, with each change a
removal, an addition, or a removal and then an addition. -/
theorem compare_normalForm (old new : String) : NormalForm (compare old new) old new := by
  have hchain : (compare old new).IsChain fun s t =>
      s.kind ≠ t.kind ∧ ¬(s.kind = .added ∧ t.kind = .removed) :=
    isChain_merge (R := fun k l => ¬(k = .added ∧ l = .removed)) (ordered_lineSegments _ _)
  constructor
  case nonempty => exact text_ne_empty_of_mem_merge (ofLines_lineSegments old new).text_ne_empty
  case alternating => exact hchain.imp fun _ _ h => h.1
  case ordered => exact hchain.imp fun _ _ h => h.2
  case between =>
    intro before stretch after heq hchanged
    rw [heq] at hchain
    have hinner := hchain.left_of_append.right_of_append
    exact kinds_mem_stretches (hinner.imp fun _ _ h => h.1) (hinner.imp fun _ _ h => h.2) hchanged
  case oldLines => exact linesOf_inOld_compare old new
  case newLines => exact linesOf_inNew_compare old new

end WorkflowCheck.Diff
