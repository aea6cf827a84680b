import WorkflowCheck.Text.Lines
import WorkflowCheck.Diff.Segment
import WorkflowCheck.Diff.Table

/-! Line by line comparison of two texts. Lines shared at the front and at the back are set
aside; what is left is walked along the table of longest common subsequences, a removal before
an addition where both keep as many lines. -/

namespace WorkflowCheck.Diff

def sharedFront : List String → List String → Nat
  | x :: a, y :: b => if x = y then sharedFront a b + 1 else 0
  | _, _ => 0

def walk {m n : Nat} (t : Table m n) :
    (i j : Nat) → (a b : List String) → i + a.length = m → j + b.length = n → List Segment
  | _, _, [], b, _, _ => b.map (⟨.added, ·⟩)
  | _, _, a, [], _, _ => a.map (⟨.removed, ·⟩)
  | i, j, x :: a, y :: b, hi, hj =>
    have hi : i + 1 + a.length = m := by simp at hi; omega
    have hj : j + 1 + b.length = n := by simp at hj; omega
    if x = y then
      ⟨.common, x⟩ :: walk t (i + 1) (j + 1) a b hi hj
    else if t.cell (i + 1) j (by omega) (by omega) ≥ t.cell i (j + 1) (by omega) (by omega) then
      ⟨.removed, x⟩ :: walk t (i + 1) j a (y :: b) hi (by simp; omega)
    else
      ⟨.added, y⟩ :: walk t i (j + 1) (x :: a) b (by simp; omega) hj
termination_by _ _ a b => a.length + b.length

/-- The segments of the lines themselves, one for each line. -/
def lineSegments (old new : List String) : List Segment :=
  let front := sharedFront old new
  let back := sharedFront (old.drop front).reverse (new.drop front).reverse
  let a := (old.drop front).take (old.length - front - back)
  let b := (new.drop front).take (new.length - front - back)
  (old.take front).map (⟨.common, ·⟩) ++
    walk (Table.ofLines a b) 0 0 a b (by simp) (by simp) ++
    (old.drop (old.length - back)).map (⟨.common, ·⟩)

/-- The segments that turn the old text into the new one. -/
def compare (old new : String) : List Segment :=
  merge (lineSegments (Text.lines old) (Text.lines new))

end WorkflowCheck.Diff
