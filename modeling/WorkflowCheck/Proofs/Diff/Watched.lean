import WorkflowCheck.Proofs.Diff.Table
import WorkflowCheck.Proofs.Diff.Reconstruction

/-! The comparison with nothing taken for granted. It runs on lists and one flat table by their
positions, with numbers that have to fit into a word; whatever is out of bounds stops it, and so
does a table that there is no room for. Each look at the table, and each change of it, leaves a
note. -/

namespace WorkflowCheck.Diff

/-- What a comparison can stop at: a number greater than the greatest word, more to take away than
there is, a slice or an item that its list does not have, a table with more cells than there is
room for, a cell beyond the table. -/
inductive Trap where
  | overflow
  | underflow
  | slice
  | room
  | cell
  deriving DecidableEq, Repr

/-- A cell that is read or written: the row and the column that are meant, the position in the flat
table, and what stands there then. -/
structure Touch where
  row : Nat
  column : Nat
  position : Nat
  value : Nat
  deriving DecidableEq, Repr

abbrev Watched := StateT (List Touch) (Except Trap)

theorem Table.index_lt_size {m n i j : Nat} (t : Table m n) (hi : i ≤ m) (hj : j ≤ n) :
    index n i j < t.cells.toArray.size := by
  rw [Vector.size_toArray]
  exact index_lt hi hj

namespace Watched

def ensure (p : Prop) [Decidable p] (trap : Trap) : Watched Unit :=
  if p then pure () else throw trap

def note (touch : Touch) : Watched Unit := modify (· ++ [touch])

def difference (x y : Nat) : Watched Nat := do
  ensure (y ≤ x) .underflow
  pure (x - y)

/-- The lines from `first` on, up to `last`. -/
def slice (lines : List String) (first last : Nat) : Watched (List String) := do
  ensure (first ≤ last ∧ last ≤ lines.length) .slice
  pure ((lines.drop first).take (last - first))

def item (lines : List String) (i : Nat) : Watched String :=
  match lines[i]? with
  | some line => pure line
  | none => throw .slice

/-- A table of zeros. -/
def allocate (room size : Nat) : Watched (Array Nat) := do
  ensure (size ≤ room) .room
  pure (Array.replicate size 0)

section

variable (limit : Nat)

def sum (x y : Nat) : Watched Nat := do
  ensure (x + y ≤ limit) .overflow
  pure (x + y)

def product (x y : Nat) : Watched Nat := do
  ensure (x * y ≤ limit) .overflow
  pure (x * y)

/-- The position of a cell in a flat table whose rows have `width` cells. -/
def position (width row column : Nat) : Watched Nat := do
  sum limit (← product limit row width) column

def read (cells : Array Nat) (width row column : Nat) : Watched Nat := do
  let position ← position limit width row column
  match cells[position]? with
  | some value =>
    note ⟨row, column, position, value⟩
    pure value
  | none => throw .cell

def write (cells : Array Nat) (width row column value : Nat) : Watched (Array Nat) := do
  let position ← position limit width row column
  ensure (position < cells.size) .cell
  note ⟨row, column, position, value⟩
  pure (cells.setIfInBounds position value)

variable (width : Nat) (a b : List String)

/-- What belongs into a cell, by the cells below it and to its right. -/
def cellValue (i j : Nat) (cells : Array Nat) : Watched Nat := do
  let x ← item a i
  let y ← item b j
  let below ← sum limit i 1
  let right ← sum limit j 1
  if x = y then
    sum limit (← read limit cells width below right) 1
  else
    return max (← read limit cells width below j) (← read limit cells width i right)

/-- Row `i` left of column `j`, from right to left. -/
def fillRow (i : Nat) : Nat → Array Nat → Watched (Array Nat)
  | 0, cells => pure cells
  | j + 1, cells => do
    let value ← cellValue limit width a b i j cells
    fillRow i j (← write limit cells width i j value)

/-- The rows above row `i`, from the bottom up. -/
def fillRows : Nat → Array Nat → Watched (Array Nat)
  | 0, cells => pure cells
  | i + 1, cells => do fillRows i (← fillRow limit width a b i b.length cells)

/-- The way through the table from row `i` and column `j` on, then what is left of either list. -/
def walk (cells : Array Nat) (i j : Nat) : Watched (List Segment) :=
  if i < a.length ∧ j < b.length then do
    let x ← item a i
    let y ← item b j
    let below ← sum limit i 1
    let right ← sum limit j 1
    if x = y then
      return ⟨.common, x⟩ :: (← walk cells (i + 1) (j + 1))
    else if (← read limit cells width below j) ≥ (← read limit cells width i right) then
      return ⟨.removed, x⟩ :: (← walk cells (i + 1) j)
    else
      return ⟨.added, y⟩ :: (← walk cells i (j + 1))
  else do
    let removed ← slice a i a.length
    let added ← slice b j b.length
    return removed.map (⟨.removed, ·⟩) ++ added.map (⟨.added, ·⟩)
termination_by a.length - i + (b.length - j)

/-- The segments of lines whose ends are set aside, by a table of their own. -/
def middle (room : Nat) : Watched (List Segment) := do
  let width ← sum limit b.length 1
  let size ← product limit (← sum limit a.length 1) width
  let cells ← fillRows limit width a b a.length (← allocate room size)
  walk limit width a b cells 0 0

/-- The segments of the lines themselves. -/
def lineSegments (room : Nat) (old new : List String) : Watched (List Segment) := do
  let front := sharedFront old new
  let oldRest ← slice old front old.length
  let newRest ← slice new front new.length
  let back := sharedFront oldRest.reverse newRest.reverse
  let a ← slice old front (← difference old.length back)
  let b ← slice new front (← difference new.length back)
  let shared ← slice old 0 front
  let between ← middle limit a b room
  let rest ← slice old (← difference old.length back) old.length
  return shared.map (⟨.common, ·⟩) ++ between ++ rest.map (⟨.common, ·⟩)

def compare (room : Nat) (old new : String) : Watched (List Segment) := do
  return merge (← lineSegments limit room (Text.lines old) (Text.lines new))

end

section

variable {limit : Nat}

theorem ensure_of {p : Prop} [Decidable p] (h : p) (trap : Trap) : ensure p trap = pure () :=
  if_pos h

theorem ensure_of_not {p : Prop} [Decidable p] (h : ¬p) (trap : Trap) :
    ensure p trap = throw trap :=
  if_neg h

theorem run_note_bind {α : Type} (touch : Touch) (value : α) (notes : List Touch) :
    (do note touch; pure value : Watched α).run notes = .ok (value, notes ++ [touch]) := rfl

theorem difference_eq {x y : Nat} (h : y ≤ x) : difference x y = pure (x - y) := by
  rw [difference, ensure_of h, pure_bind]

theorem slice_eq {lines : List String} {first last : Nat} (h : first ≤ last)
    (hlast : last ≤ lines.length) :
    slice lines first last = pure ((lines.drop first).take (last - first)) := by
  rw [slice, ensure_of ⟨h, hlast⟩, pure_bind]

/-- All lines from one on. -/
theorem slice_to_end {lines : List String} {first : Nat} (h : first ≤ lines.length) :
    slice lines first lines.length = pure (lines.drop first) := by
  rw [slice_eq h (Nat.le_refl _), List.take_of_length_le (Nat.le_of_eq List.length_drop)]

theorem item_eq {lines : List String} {i : Nat} (h : i < lines.length) :
    item lines i = pure lines[i] := by
  rw [item, List.getElem?_eq_getElem h]

theorem sum_eq {x y : Nat} (h : x + y ≤ limit) : sum limit x y = pure (x + y) := by
  rw [sum, ensure_of h, pure_bind]

theorem product_eq {x y : Nat} (h : x * y ≤ limit) : product limit x y = pure (x * y) := by
  rw [product, ensure_of h, pure_bind]

theorem allocate_eq {room size : Nat} (h : size ≤ room) :
    allocate room size = pure (Array.replicate size 0) := by
  rw [allocate, ensure_of h, pure_bind]

section

variable {cells cells' : Array Nat} {width row column value : Nat} {notes notes' : List Touch}

theorem position_eq (h : row * width + column ≤ limit) :
    position limit width row column = pure (row * width + column) := by
  rw [position, product_eq (Nat.le_trans (Nat.le_add_right _ _) h), pure_bind, sum_eq h]

theorem position_of_not_le (h : ¬row * width + column ≤ limit) :
    position limit width row column = throw .overflow := by
  by_cases hrow : row * width ≤ limit
  · rw [position, product_eq hrow, pure_bind, sum, ensure_of_not h]
    rfl
  · rw [position, product, ensure_of_not hrow]
    rfl

/-- A read that comes to its end has left one note, of the cell that it has read. -/
theorem run_read_eq_ok : (read limit cells width row column).run notes = .ok (value, notes') ↔
    row * width + column ≤ limit ∧ cells[row * width + column]? = some value ∧
      notes' = notes ++ [⟨row, column, row * width + column, value⟩] := by
  rw [read]
  by_cases h : row * width + column ≤ limit
  · rw [position_eq h, pure_bind]
    cases hcell : cells[row * width + column]? with
    | none => exact ⟨nofun, fun hr => nomatch hr.2.1⟩
    | some found =>
      rw [run_note_bind]
      simp only [h, true_and, Option.some.injEq, Except.ok.injEq, Prod.mk.injEq]
      constructor <;> rintro ⟨rfl, rfl⟩ <;> exact ⟨rfl, rfl⟩
  · rw [position_of_not_le h]
    exact ⟨nofun, fun hr => absurd hr.1 h⟩

/-- So has a write. -/
theorem run_write_eq_ok :
    (write limit cells width row column value).run notes = .ok (cells', notes') ↔
      row * width + column ≤ limit ∧ row * width + column < cells.size ∧
        cells' = cells.setIfInBounds (row * width + column) value ∧
        notes' = notes ++ [⟨row, column, row * width + column, value⟩] := by
  rw [write]
  by_cases h : row * width + column ≤ limit
  · rw [position_eq h, pure_bind]
    by_cases hcell : row * width + column < cells.size
    · rw [ensure_of hcell, pure_bind, run_note_bind]
      simp only [h, hcell, true_and, Except.ok.injEq, Prod.mk.injEq]
      constructor <;> rintro ⟨rfl, rfl⟩ <;> exact ⟨rfl, rfl⟩
    · rw [ensure_of_not hcell]
      exact ⟨nofun, fun hr => absurd hr.2.1 hcell⟩
  · rw [position_of_not_le h]
    exact ⟨nofun, fun hr => absurd hr.1 h⟩

end

end

variable {α β : Type} {good : Touch → Prop}

/-- It comes to its end with a value, and what it notes on the way is good. -/
def Runs (good : Touch → Prop) (x : Watched α) (value : α) : Prop :=
  ∀ notes, ∃ touches, x.run notes = .ok (value, notes ++ touches) ∧ ∀ touch ∈ touches, good touch

namespace Runs

theorem pure (value : α) : Runs good (Pure.pure value) value := by
  intro notes
  refine ⟨[], ?_, fun touch h => nomatch h⟩
  rw [List.append_nil]
  rfl

theorem bind {x : Watched α} {f : α → Watched β} {v : α} {w : β} (hx : Runs good x v)
    (hf : Runs good (f v) w) : Runs good (x >>= f) w := by
  intro notes
  obtain ⟨touches, hrun, hgood⟩ := hx notes
  obtain ⟨touches', hrun', hgood'⟩ := hf (notes ++ touches)
  refine ⟨touches ++ touches', ?_, ?_⟩
  · rw [StateT.run_bind, hrun, ← List.append_assoc, ← hrun']
    rfl
  · intro touch htouch
    rcases List.mem_append.mp htouch with h | h
    · exact hgood touch h
    · exact hgood' touch h

variable {limit m n : Nat}

theorem read {t : Table m n} {i j : Nat} (hi : i ≤ m) (hj : j ≤ n)
    (fits : (m + 1) * (n + 1) ≤ limit)
    (h : good ⟨i, j, Table.index n i j, t.cell i j hi hj⟩) :
    Runs good (Watched.read limit t.cells.toArray (n + 1) i j) (t.cell i j hi hj) := by
  have hcell : t.cells.toArray[Table.index n i j]? = some (t.cell i j hi hj) :=
    Array.getElem?_eq_getElem (t.index_lt_size hi hj)
  have hlimit : Table.index n i j ≤ limit := Nat.le_trans (Nat.le_of_lt (Table.index_lt hi hj)) fits
  intro notes
  exact ⟨_, run_read_eq_ok.mpr ⟨hlimit, hcell, rfl⟩, fun _ htouch => List.mem_singleton.mp htouch ▸ h⟩

theorem write {t : Table m n} {i j v : Nat} (hi : i ≤ m) (hj : j ≤ n)
    (fits : (m + 1) * (n + 1) ≤ limit) (h : good ⟨i, j, Table.index n i j, v⟩) :
    Runs good (Watched.write limit t.cells.toArray (n + 1) i j v)
      (t.put i j hi hj v).cells.toArray := by
  have hcell := t.index_lt_size hi hj
  have hset : (t.put i j hi hj v).cells.toArray =
      t.cells.toArray.setIfInBounds (Table.index n i j) v := by
    rw [Array.setIfInBounds_def, dif_pos hcell]
    rfl
  have hlimit : Table.index n i j ≤ limit := Nat.le_trans (Nat.le_of_lt (Table.index_lt hi hj)) fits
  intro notes
  exact ⟨_, run_write_eq_ok.mpr ⟨hlimit, hcell, hset, rfl⟩,
    fun _ htouch => List.mem_singleton.mp htouch ▸ h⟩

end Runs

end Watched

end WorkflowCheck.Diff
