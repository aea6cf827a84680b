import WorkflowCheck.Value

/-! JSON pointers: a path into a document is written with a slash before each step. Inside a
step `~0` stands for a tilde and `~1` for a slash. -/

namespace WorkflowCheck.Pointer

def replaceChar (c : Char) (text : List Char) (s : List Char) : List Char :=
  s.flatMap fun d => if d = c then text else [d]

def replacePair (a b c : Char) : List Char → List Char
  | x :: y :: rest =>
    if x = a ∧ y = b then c :: replacePair a b c rest else x :: replacePair a b c (y :: rest)
  | rest => rest

/-- Tildes first, so that those which `~1` brings stay as they are. -/
def escape (step : String) : String :=
  String.ofList (replaceChar '/' ['~', '1'] (replaceChar '~' ['~', '0'] step.toList))

def unescape (step : String) : String :=
  String.ofList (replacePair '~' '0' '~' (replacePair '~' '1' '/' step.toList))

def child (parent step : String) : String := parent ++ "/" ++ escape step

def splitSteps : List Char → List (List Char)
  | [] => [[]]
  | c :: cs =>
    if c = '/' then [] :: splitSteps cs
    else match splitSteps cs with
      | [] => [[c]]
      | p :: ps => (c :: p) :: ps

def steps (pointer : String) : List String :=
  (splitSteps pointer.toList).tail.map fun p => unescape (String.ofList p)

/-- The value one step into a document: of a key, or of a position as it is printed. -/
def step? (value : Value) (step : String) : Option Value :=
  match value with
  | .object entries => entries.lookup step
  | .array items => (step.toNat?.filter fun i => toString i = step).bind fun i => items[i]?
  | _ => none

def resolve? (value : Value) (pointer : String) : Option Value :=
  (steps pointer).foldlM step? value

end WorkflowCheck.Pointer
