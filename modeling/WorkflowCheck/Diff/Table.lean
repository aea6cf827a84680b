/-! The table of longest common subsequences of two lists of lines. Its cells lie row after row
in one flat vector: the cell of row `i` and column `j` speaks of the lines from `i` on of the
first list and from `j` on of the second. -/

namespace WorkflowCheck.Diff

structure Table (m n : Nat) where
  cells : Vector Nat ((m + 1) * (n + 1))

namespace Table

def index (n i j : Nat) : Nat := i * (n + 1) + j

theorem index_lt {m n i j : Nat} (hi : i ≤ m) (hj : j ≤ n) : index n i j < (m + 1) * (n + 1) := by
  have h := Nat.mul_le_mul_right (n + 1) hi
  simp only [index, Nat.add_mul, Nat.one_mul] at *
  omega

variable {m n : Nat}

def zero : Table m n := ⟨Vector.replicate _ 0⟩

def cell (t : Table m n) (i j : Nat) (hi : i ≤ m) (hj : j ≤ n) : Nat :=
  t.cells.get ⟨index n i j, index_lt hi hj⟩

def put (t : Table m n) (i j : Nat) (hi : i ≤ m) (hj : j ≤ n) (v : Nat) : Table m n :=
  ⟨t.cells.set (index n i j) v (index_lt hi hj)⟩

/-- Fills the cells left of column `k` in row `i`, from right to left. The row below and the
cells from column `k` on are already there. -/
def fillRow (x : String) (b : Vector String n) (i : Nat) (hi : i < m) :
    (k : Nat) → k ≤ n → Table m n → Table m n
  | 0, _, t => t
  | k + 1, hk, t =>
    fillRow x b i hi k (Nat.le_of_succ_le hk) <|
      t.put i k (Nat.le_of_lt hi) (Nat.le_of_succ_le hk) <|
        if x = b.get ⟨k, hk⟩ then t.cell (i + 1) (k + 1) hi hk + 1
        else max (t.cell (i + 1) k hi (Nat.le_of_succ_le hk)) (t.cell i (k + 1) (Nat.le_of_lt hi) hk)

def fillRows (a : Vector String m) (b : Vector String n) :
    (k : Nat) → k ≤ m → Table m n → Table m n
  | 0, _, t => t
  | k + 1, hk, t =>
    fillRows a b k (Nat.le_of_succ_le hk) (fillRow (a.get ⟨k, hk⟩) b k hk n (Nat.le_refl n) t)

def ofLines (a b : List String) : Table a.length b.length :=
  fillRows ⟨a.toArray, by simp⟩ ⟨b.toArray, by simp⟩ a.length (Nat.le_refl _) zero

end Table

end WorkflowCheck.Diff
