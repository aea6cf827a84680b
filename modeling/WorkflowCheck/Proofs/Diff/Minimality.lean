import Mathlib.Data.List.Basic
import WorkflowCheck.Proofs.Diff.Alignment
import WorkflowCheck.Proofs.Diff.WholeLines

/-! A comparison keeps as many lines as can be kept. The walk keeps what its table promises, and to
set shared lines aside at both ends costs nothing, so no other way to turn one text into the other
removes or adds fewer lines. -/

namespace WorkflowCheck.Diff

theorem length_common_align (a b : List String) :
    (chosen (· = .common) (align a b)).length = longest a b := by
  fun_induction align a b with
  | case1 b => simp
  | case2 a => simp
  | case3 x a b ih => simp [chosen_cons, longest_cons_cons, ih]
  | case4 x a y b hne hge ih =>
    rw [chosen_cons, longest_cons_cons, if_neg hne, Nat.max_eq_left hge, ← ih]
    rfl
  | case5 x a y b hne hlt ih =>
    have hle : longest a (y :: b) ≤ longest (x :: a) b := by omega
    rw [chosen_cons, longest_cons_cons, if_neg hne, Nat.max_eq_right hle, ← ih]
    rfl

theorem isLongest_lineSegments (old new : List String) :
    IsLongest old new (chosen (· = .common) (lineSegments old new)).length := by
  obtain ⟨front, a, b, back, hold, hnew, heq⟩ := exists_lineSegments old new
  have hlength : (chosen (· = .common) (lineSegments old new)).length =
      front.length + longest a b + back.length := by
    rw [heq, chosen_append, chosen_append, chosen_map, chosen_map, List.length_append,
      List.length_append, length_common_align]
    rfl
  rw [hlength, hold, hnew]
  exact ((isLongest_longest a b).append_left front).append_right back

/-- Segments of whole lines that turn one text into the other. -/
structure Describes (segments : List Segment) (old new : String) : Prop where
  old : linesOf SegmentKind.inOld segments = Text.lines old
  new : linesOf SegmentKind.inNew segments = Text.lines new

theorem chosen_sublist {p q : SegmentKind → Bool} (h : ∀ kind, p kind = true → q kind = true)
    (segments : List Segment) : (chosen p segments).Sublist (chosen q segments) := by
  have hfilter : (segments.filter fun s => p s.kind).Sublist (segments.filter fun s => q s.kind) :=
    List.monotone_filter_right segments fun s => h s.kind
  exact hfilter.map _

/-- The lines of a text are those that are kept and those of one other kind. -/
theorem length_chosen {side : SegmentKind → Bool} {kind : SegmentKind} (hne : kind ≠ .common)
    (hside : ∀ k, side k = true ↔ k = .common ∨ k = kind) (segments : List Segment) :
    (chosen side segments).length =
      (chosen (· = .common) segments).length + (chosen (· = kind) segments).length := by
  induction segments with
  | nil => rfl
  | cons s rest ih =>
    simp only [chosen_cons, hside, decide_eq_true_eq]
    by_cases hcommon : s.kind = .common
    · have hother : s.kind ≠ kind := fun h => hne (h.symm.trans hcommon)
      rw [if_pos (.inl hcommon), if_pos hcommon, if_neg hother, List.length_cons, List.length_cons]
      omega
    · by_cases hkind : s.kind = kind
      · rw [if_pos (.inr hkind), if_neg hcommon, if_pos hkind, List.length_cons, List.length_cons]
        omega
      · rw [if_neg (by simp [hcommon, hkind]), if_neg hcommon, if_neg hkind, ih]

theorem inOld_iff (kind : SegmentKind) : kind.inOld = true ↔ kind = .common ∨ kind = .removed := by
  cases kind <;> simp [SegmentKind.inOld]

theorem inNew_iff (kind : SegmentKind) : kind.inNew = true ↔ kind = .common ∨ kind = .added := by
  cases kind <;> simp [SegmentKind.inNew]

/-- What segments keep is a common subsequence of both texts. -/
theorem Describes.length_common_le {segments : List Segment} {old new : String} {k : Nat}
    (h : Describes segments old new) (hk : IsLongest (Text.lines old) (Text.lines new) k) :
    (linesOf (· = .common) segments).length ≤ k := by
  apply hk.bound
  · rw [← h.old, linesOf_eq_chosen, linesOf_eq_chosen]
    exact chosen_sublist (fun kind hkind => (inOld_iff kind).mpr (.inl (of_decide_eq_true hkind))) _
  · rw [← h.new, linesOf_eq_chosen, linesOf_eq_chosen]
    exact chosen_sublist (fun kind hkind => (inNew_iff kind).mpr (.inl (of_decide_eq_true hkind))) _

theorem Describes.length_old {segments : List Segment} {old new : String}
    (h : Describes segments old new) : (Text.lines old).length =
      (linesOf (· = .common) segments).length + (linesOf (· = .removed) segments).length := by
  rw [← h.old, linesOf_eq_chosen, linesOf_eq_chosen, linesOf_eq_chosen]
  exact length_chosen (by simp) inOld_iff _

theorem Describes.length_new {segments : List Segment} {old new : String}
    (h : Describes segments old new) : (Text.lines new).length =
      (linesOf (· = .common) segments).length + (linesOf (· = .added) segments).length := by
  rw [← h.new, linesOf_eq_chosen, linesOf_eq_chosen, linesOf_eq_chosen]
  exact length_chosen (by simp) inNew_iff _

/-- A comparison turns one text into the other, keeps as many lines as any common subsequence has,
and has no more lines removed, nor more added, than any other segments that do so. -/
theorem compare_minimal (old new : String) :
    Describes (compare old new) old new ∧
      IsLongest (Text.lines old) (Text.lines new)
        (linesOf (· = .common) (compare old new)).length ∧
      ∀ segments, Describes segments old new →
        (linesOf (· = .removed) (compare old new)).length ≤
            (linesOf (· = .removed) segments).length ∧
          (linesOf (· = .added) (compare old new)).length ≤
            (linesOf (· = .added) segments).length := by
  have hdescribes : Describes (compare old new) old new :=
    ⟨linesOf_inOld_compare old new, linesOf_inNew_compare old new⟩
  have hlongest : IsLongest (Text.lines old) (Text.lines new)
      (linesOf (· = .common) (compare old new)).length := by
    rw [linesOf_eq_chosen, byLine_compare]
    exact isLongest_lineSegments _ _
  refine ⟨hdescribes, hlongest, fun segments h => ?_⟩
  have hcommon := h.length_common_le hlongest
  have hold := h.length_old
  have hnew := h.length_new
  have hold' := hdescribes.length_old
  have hnew' := hdescribes.length_new
  omega

/-- To write all lines anew removes and adds one line too many. -/
theorem swapped_lines_minimal :
    let anew : List Segment := [⟨.removed, "a\nb\n"⟩, ⟨.added, "b\na\n"⟩]
    Describes anew "a\nb\n" "b\na\n" ∧
      (linesOf (· = .removed) (compare "a\nb\n" "b\na\n")).length ≤
        (linesOf (· = .removed) anew).length := by
  intro anew
  have h : Describes anew "a\nb\n" "b\na\n" := ⟨by cbv, by cbv⟩
  exact ⟨h, ((compare_minimal _ _).2.2 anew h).1⟩

end WorkflowCheck.Diff
