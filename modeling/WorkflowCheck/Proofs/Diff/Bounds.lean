import WorkflowCheck.Proofs.Diff.Alignment
import WorkflowCheck.Proofs.Diff.Watched

/-! A comparison stays within its bounds. Where there is room for the table, the watched run comes to
its end with what the comparison gives, and each cell that it touches is inside the table and holds
what its row and its column stand for. The table of a run is the flat form of one by rows and columns, so what its filling
keeps is told of that one. -/

namespace WorkflowCheck.Diff

/-- A touch of the cell that is meant, with the value that belongs there. -/
structure Touch.Sound (a b : List String) (touch : Touch) : Prop where
  row : touch.row ≤ a.length
  column : touch.column ≤ b.length
  position : touch.position = Table.index b.length touch.row touch.column
  value : touch.value = longest (a.drop touch.row) (b.drop touch.column)

namespace Touch.Sound

variable {a b : List String} {touch touch' : Touch}

theorem meant (h : touch.Sound a b) : touch.position < (a.length + 1) * (b.length + 1) ∧
    touch.position / (b.length + 1) = touch.row ∧ touch.position % (b.length + 1) = touch.column ∧
    IsLongest (a.drop touch.row) (b.drop touch.column) touch.value := by
  rw [h.position, h.value]
  exact ⟨Table.index_lt h.row h.column, Table.index_div h.column, Table.index_mod h.column,
    isLongest_longest _ _⟩

/-- A row lies behind all rows before it. -/
theorem position_lt (h : touch.Sound a b) (h' : touch'.Sound a b) (hrows : touch.row < touch'.row) :
    touch.position < touch'.position := by
  rw [← h.meant.2.1, ← h'.meant.2.1] at hrows
  exact Nat.lt_of_div_lt_div hrows

end Touch.Sound

/-- What is left of one list when the other is at its end. -/
theorem align_of_nil {a b : List String} (h : a = [] ∨ b = []) :
    align a b = a.map (⟨.removed, ·⟩) ++ b.map (⟨.added, ·⟩) := by
  rcases h with rfl | rfl
  · rw [align, List.map_nil, List.nil_append]
  · rw [align_nil_right, List.map_nil, List.append_nil]

namespace Watched

variable {limit : Nat}

section

variable {a b : List String} {t : Table a.length b.length}
variable (fits : (a.length + 1) * (b.length + 1) ≤ limit)

include fits

theorem length_left_lt : a.length < limit := by
  have hcolumns : 0 < b.length + 1 := Nat.succ_pos _
  have hrows := Nat.le_mul_of_pos_right (a.length + 1) hcolumns
  omega

theorem length_right_lt : b.length < limit := by
  have hrows : 0 < a.length + 1 := Nat.succ_pos _
  have hcolumns := Nat.le_mul_of_pos_left (b.length + 1) hrows
  omega

theorem runs_read (i j : Nat) (hi : i ≤ a.length) (hj : j ≤ b.length)
    (h : t.cell i j hi hj = longest (a.drop i) (b.drop j)) :
    Runs (Touch.Sound a b) (read limit t.cells.toArray (b.length + 1) i j)
      (longest (a.drop i) (b.drop j)) := by
  rw [← h]
  exact .read hi hj fits ⟨hi, hj, rfl, h⟩

theorem runs_write (i j : Nat) (hi : i ≤ a.length) (hj : j ≤ b.length) :
    Runs (Touch.Sound a b)
      (write limit t.cells.toArray (b.length + 1) i j (longest (a.drop i) (b.drop j)))
      (t.put i j hi hj (longest (a.drop i) (b.drop j))).cells.toArray :=
  .write hi hj fits ⟨hi, hj, rfl, rfl⟩

theorem runs_cellValue {i j : Nat} (hi : i < a.length) (hj : j < b.length)
    (h : t.Holds a b fun i' j' => i < i' ∨ i' = i ∧ j < j') :
    Runs (Touch.Sound a b) (cellValue limit (b.length + 1) a b i j t.cells.toArray)
      (longest (a.drop i) (b.drop j)) := by
  have ha := length_left_lt fits
  have hb := length_right_lt fits
  have hdiagonal := runs_read fits (i + 1) (j + 1) hi hj (h _ _ _ _ (by omega))
  have hbelow := runs_read fits (i + 1) j hi (Nat.le_of_lt hj) (h _ _ _ _ (by omega))
  have hright := runs_read fits i (j + 1) (Nat.le_of_lt hi) hj (h _ _ _ _ (by omega))
  rw [cellValue, item_eq hi, pure_bind, item_eq hj, pure_bind, sum_eq (by omega), pure_bind,
    sum_eq (by omega), pure_bind, longest_drop hi hj]
  by_cases hline : a[i] = b[j]
  · rw [if_pos hline, if_pos hline]
    have hlength := longest_le_length_left (a.drop (i + 1)) (b.drop (j + 1))
    rw [List.length_drop] at hlength
    refine hdiagonal.bind ?_
    rw [sum_eq (by omega)]
    exact Runs.pure _
  · rw [if_neg hline, if_neg hline]
    exact hbelow.bind (hright.bind (Runs.pure _))

/-- The filling of a row looks at cells that are done only and leaves a table with one row more. -/
theorem exists_runs_fillRow {i j : Nat} (hi : i < a.length) (hj : j ≤ b.length)
    (h : t.Holds a b fun i' j' => i < i' ∨ i' = i ∧ j ≤ j' ∨ j' = b.length) :
    ∃ t' : Table a.length b.length,
      Runs (Touch.Sound a b) (fillRow limit (b.length + 1) a b i j t.cells.toArray)
        t'.cells.toArray ∧
      t'.Holds a b fun i' j' => i ≤ i' ∨ j' = b.length := by
  induction j generalizing t with
  | zero => exact ⟨t, Runs.pure _, h.mono fun i' j' _ _ hdone => by omega⟩
  | succ j ih =>
    have hvalue := runs_cellValue fits hi hj (h.mono fun i' j' _ _ hdone => by omega)
    have hwrite := runs_write (t := t) fits i j (Nat.le_of_lt hi) (Nat.le_of_lt hj)
    have hput := h.put (Nat.le_of_lt hi) (Nat.le_of_lt hj) rfl
    obtain ⟨t', hrest, hholds⟩ := ih (Nat.le_of_lt hj) (hput.mono fun i' j' _ _ hdone => by omega)
    exact ⟨t', hvalue.bind (hwrite.bind hrest), hholds⟩

theorem exists_runs_fillRows {i : Nat} (hi : i ≤ a.length)
    (h : t.Holds a b fun i' j' => i ≤ i' ∨ j' = b.length) :
    ∃ t' : Table a.length b.length,
      Runs (Touch.Sound a b) (fillRows limit (b.length + 1) a b i t.cells.toArray)
        t'.cells.toArray ∧
      t'.Holds a b fun _ _ => True := by
  induction i generalizing t with
  | zero => exact ⟨t, Runs.pure _, h.mono fun i' j' _ _ _ => by omega⟩
  | succ i ih =>
    obtain ⟨t', hrow, hholds⟩ := exists_runs_fillRow fits hi (Nat.le_refl _)
      (h.mono fun i' j' _ _ hdone => by omega)
    obtain ⟨t'', hrest, hholds'⟩ := ih (Nat.le_of_lt hi) hholds
    exact ⟨t'', hrow.bind hrest, hholds'⟩

/-- Over a filled table the watched walk goes the way that the lengths show. -/
theorem runs_walk (h : t.Holds a b fun _ _ => True) {i j : Nat} (hi : i ≤ a.length)
    (hj : j ≤ b.length) :
    Runs (Touch.Sound a b) (walk limit (b.length + 1) a b t.cells.toArray i j)
      (align (a.drop i) (b.drop j)) := by
  rw [walk]
  by_cases hin : i < a.length ∧ j < b.length
  · obtain ⟨hi', hj'⟩ := hin
    have ha := length_left_lt fits
    have hb := length_right_lt fits
    have hbelow := runs_read fits (i + 1) j hi' hj (h _ _ _ _ trivial)
    have hright := runs_read fits i (j + 1) hi hj' (h _ _ _ _ trivial)
    have hx := List.drop_eq_getElem_cons hi'
    have hy := List.drop_eq_getElem_cons hj'
    -- Only the way as a whole is opened: the lengths are told of the rests as they were.
    rw [if_pos ⟨hi', hj'⟩, hx, hy, align, ← hx, ← hy, item_eq hi', pure_bind, item_eq hj', pure_bind,
      sum_eq (by omega), pure_bind, sum_eq (by omega), pure_bind]
    by_cases hline : a[i] = b[j]
    · rw [if_pos hline, if_pos hline]
      exact (runs_walk h hi' hj').bind (Runs.pure _)
    · rw [if_neg hline, if_neg hline]
      refine hbelow.bind (hright.bind ?_)
      by_cases hge : longest (a.drop (i + 1)) (b.drop j) ≥ longest (a.drop i) (b.drop (j + 1))
      · rw [if_pos hge, if_pos hge]
        exact (runs_walk h hi' hj).bind (Runs.pure _)
      · rw [if_neg hge, if_neg hge]
        exact (runs_walk h hi hj').bind (Runs.pure _)
  · have hempty : a.drop i = [] ∨ b.drop j = [] := by
      rw [List.drop_eq_nil_iff, List.drop_eq_nil_iff]
      omega
    rw [if_neg hin, align_of_nil hempty, slice_to_end hi, pure_bind, slice_to_end hj, pure_bind]
    exact Runs.pure _
termination_by a.length - i + (b.length - j)

/-- Up to its table a comparison of lines does nothing that could stop it. -/
theorem middle_eq (room : Nat) :
    middle limit a b room = (do
      let cells ← allocate room ((a.length + 1) * (b.length + 1))
      walk limit (b.length + 1) a b
        (← fillRows limit (b.length + 1) a b a.length cells) 0 0) := by
  have ha := length_left_lt fits
  have hb := length_right_lt fits
  rw [middle, sum_eq (by omega), pure_bind, sum_eq (by omega), pure_bind, product_eq fits, pure_bind]

theorem runs_middle {room : Nat} (granted : (a.length + 1) * (b.length + 1) ≤ room) :
    Runs (Touch.Sound a b) (middle limit a b room) (align a b) := by
  obtain ⟨t, hfill, hholds⟩ :=
    exists_runs_fillRows fits (Nat.le_refl _) (Table.holds_zero _ _)
  have hwalk := runs_walk fits hholds (Nat.zero_le _) (Nat.zero_le _)
  rw [middle_eq fits, allocate_eq granted, pure_bind]
  exact hfill.bind hwalk

theorem middle_of_refused {room : Nat} (refused : room < (a.length + 1) * (b.length + 1)) :
    middle limit a b room = throw .room := by
  rw [middle_eq fits, allocate, ensure_of_not (Nat.not_le_of_lt refused)]
  rfl

end

section

variable {old new : List String}

theorem slice_between {lines : List String}
    (h : sharedFront old new + sharedBack old new ≤ lines.length) :
    slice lines (sharedFront old new) (lines.length - sharedBack old new) =
      pure (between old new lines) := by
  rw [slice_eq (by omega) (Nat.sub_le _ _), between, Nat.sub_right_comm]

/-- What is set aside at either end is within both lists, so only the middle can stop the run. -/
theorem lineSegments_eq (room : Nat) :
    lineSegments limit room old new = (do
      let segments ← middle limit (between old new old) (between old new new) room
      return (old.take (sharedFront old new)).map (⟨.common, ·⟩) ++ segments ++
        (old.drop (old.length - sharedBack old new)).map (⟨.common, ·⟩)) := by
  obtain ⟨hold, hnew⟩ := sharedFront_add_sharedBack_le old new
  have hback : sharedFront (old.drop (sharedFront old new)).reverse
      (new.drop (sharedFront old new)).reverse = sharedBack old new := rfl
  have hbackOld : sharedBack old new ≤ old.length := by omega
  have hbackNew : sharedBack old new ≤ new.length := by omega
  have hshared : slice old 0 (sharedFront old new) = pure (old.take (sharedFront old new)) :=
    slice_eq (Nat.zero_le _) (by omega)
  have hrest : slice old (old.length - sharedBack old new) old.length =
      pure (old.drop (old.length - sharedBack old new)) :=
    slice_to_end (Nat.sub_le _ _)
  rw [lineSegments, slice_to_end (by omega), pure_bind, slice_to_end (by omega), pure_bind]
  simp only [hback, difference_eq hbackOld, difference_eq hbackNew, slice_between hold,
    slice_between hnew, hshared, hrest, pure_bind]

variable (fits : ((between old new old).length + 1) * ((between old new new).length + 1) ≤ limit)

include fits

theorem runs_lineSegments {room : Nat}
    (granted : ((between old new old).length + 1) * ((between old new new).length + 1) ≤ room) :
    Runs (Touch.Sound (between old new old) (between old new new))
      (lineSegments limit room old new) (Diff.lineSegments old new) := by
  rw [lineSegments_eq, lineSegments_eq_align]
  exact (runs_middle fits granted).bind (Runs.pure _)

theorem lineSegments_of_refused {room : Nat}
    (refused : room < ((between old new old).length + 1) * ((between old new new).length + 1)) :
    lineSegments limit room old new = throw .room := by
  rw [lineSegments_eq, middle_of_refused fits refused]
  rfl

end

end Watched

/-- If the size of the table fits into a word, no bound is left on the way of a comparison. What is
set aside at the front and at the back fits into both texts, no number gets too great or less than
nothing, no slice and no item lies beyond its list, and every cell that is read or written is the
one meant: inside the table, at its row and column, behind all rows before, and with the length of
a longest common subsequence of the lines from there on. All that can stop the run is that there is
no room for the table. -/
theorem compare_stays_in_bounds (limit room : Nat) (old new : String) :
    let l := Text.lines old
    let l' := Text.lines new
    let a := between l l' l
    let b := between l l' l'
    let size := (a.length + 1) * (b.length + 1)
    size ≤ limit →
      (sharedFront l l' + sharedBack l l' ≤ l.length ∧
        sharedFront l l' + sharedBack l l' ≤ l'.length) ∧
      (size ≤ room →
        ∃ touches, (Watched.compare limit room old new).run [] = .ok (compare old new, touches) ∧
          (∀ touch ∈ touches, touch.position < size ∧
            touch.position / (b.length + 1) = touch.row ∧
            touch.position % (b.length + 1) = touch.column ∧
            IsLongest (a.drop touch.row) (b.drop touch.column) touch.value) ∧
          ∀ touch ∈ touches, ∀ touch' ∈ touches,
            touch.row < touch'.row → touch.position < touch'.position) ∧
      (room < size → (Watched.compare limit room old new).run [] = .error .room) := by
  intro l l' a b size fits
  refine ⟨sharedFront_add_sharedBack_le l l', fun granted => ?_, fun refused => ?_⟩
  · have hruns : Watched.Runs (Touch.Sound a b) (Watched.compare limit room old new)
        (compare old new) :=
      (Watched.runs_lineSegments fits granted).bind (Watched.Runs.pure _)
    obtain ⟨touches, hrun, hsound⟩ := hruns []
    refine ⟨touches, hrun, fun touch htouch => ?_, fun touch htouch touch' htouch' hrows => ?_⟩
    · exact (hsound touch htouch).meant
    · exact (hsound touch htouch).position_lt (hsound touch' htouch') hrows
  · rw [Watched.compare, Watched.lineSegments_of_refused fits refused]
    rfl

namespace Repeated

/-- The line at the front of both texts is at their back, too, and once more in the old one. -/
def old : List String := Text.lines "a\nb\na\na\n"

def new : List String := Text.lines "a\nc\na\n"

end Repeated

/-- A table of six cells, first with room for all of them and then for one less. -/
theorem repeated_lines_stay_in_bounds :
    ((between Repeated.old Repeated.new Repeated.old).length + 1) *
        ((between Repeated.old Repeated.new Repeated.new).length + 1) ≤ 6 ∧
      sharedFront Repeated.old Repeated.new + sharedBack Repeated.old Repeated.new ≤
        Repeated.new.length ∧
      (∃ touches, (Watched.compare 6 6 "a\nb\na\na\n" "a\nc\na\n").run [] =
          .ok (compare "a\nb\na\na\n" "a\nc\na\n", touches) ∧
        ∀ touch ∈ touches, touch.position < 6) ∧
      (Watched.compare 6 5 "a\nb\na\na\n" "a\nc\na\n").run [] = .error .room := by
  have hsize : ((between Repeated.old Repeated.new Repeated.old).length + 1) *
      ((between Repeated.old Repeated.new Repeated.new).length + 1) = 6 := by cbv
  have hfits := Nat.le_of_eq hsize
  obtain ⟨⟨-, hshared⟩, hgranted, -⟩ :=
    compare_stays_in_bounds 6 6 "a\nb\na\na\n" "a\nc\na\n" hfits
  obtain ⟨-, -, hrefused⟩ := compare_stays_in_bounds 6 5 "a\nb\na\na\n" "a\nc\na\n" hfits
  obtain ⟨touches, hrun, hmeant, -⟩ := hgranted hfits
  exact ⟨hfits, hshared, ⟨touches, hrun, fun touch htouch =>
    Nat.lt_of_lt_of_le (hmeant touch htouch).1 hfits⟩, hrefused (Nat.le_of_eq hsize.symm)⟩

/-- One cell more than a word can count stops the run. -/
example : (Watched.compare 5 6 "a\nb\na\na\n" "a\nc\na\n").run [] = .error .overflow := by cbv

end WorkflowCheck.Diff
