/-! How similar two words are: by the letters that they share at about the same place, and by how
many of these stand in another order. -/

namespace WorkflowCheck.CommandLine

/-- A fraction, compared with others by cross-multiplication. -/
structure Likeness where
  num : Nat
  den : Nat
  deriving DecidableEq, Repr

namespace Likeness

def exceeds (x y : Likeness) : Bool := y.num * x.den < x.num * y.den

def threshold : Likeness := ⟨7, 10⟩

/-- Takes the first letter `c` within reach of position `i` that is still free. -/
def claim (c : Char) (i reach : Nat) : Nat → List (Char × Bool) → Option (List (Char × Bool))
  | _, [] => none
  | j, (d, free) :: rest =>
    if i + reach < j then none
    else if i ≤ j + reach && free && c == d then some ((d, false) :: rest)
    else (claim c i reach (j + 1) rest).map ((d, free) :: ·)

def pairUp (reach : Nat) : Nat → List Char → List (Char × Bool) →
    List Char × List (Char × Bool)
  | _, [], b => ([], b)
  | i, c :: a, b =>
    match claim c i reach 0 b with
    | some b =>
      let (shared, b) := pairUp reach (i + 1) a b
      (c :: shared, b)
    | none => pairUp reach (i + 1) a b

def ofWords (a b : List Char) : Likeness :=
  if a.isEmpty && b.isEmpty then ⟨1, 1⟩
  else
    let reach := max a.length b.length / 2 - 1
    let (shared, taken) := pairUp reach 0 a (b.map (·, true))
    let partners := (taken.filter (!·.2)).map (·.1)
    let swaps := ((shared.zip partners).filter fun p => p.1 != p.2).length / 2
    let m := shared.length
    if m = 0 then ⟨0, 1⟩
    else
      ⟨m * m * b.length + m * m * a.length + (m - swaps) * a.length * b.length,
        3 * m * a.length * b.length⟩

/-- The most similar of some words, the last of several, if it is similar enough. -/
def best? (word : String) (candidates : List String) : Option String :=
  let better := fun (best : Option (Likeness × String)) (candidate : String) =>
    let x := ofWords word.toList candidate.toList
    if !x.exceeds threshold then best
    else match best with
      | some (y, _) => if y.exceeds x then best else some (x, candidate)
      | none => some (x, candidate)
  (candidates.foldl better none).map (·.2)

end Likeness

end WorkflowCheck.CommandLine
