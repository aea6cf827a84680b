import WorkflowCheck.Text.Utf8

/-! Paths as byte strings. Components stand between slashes; empty components and `.` name no
step of their own. -/

namespace WorkflowCheck.Path

def slash : UInt8 := 0x2F

def dot : Bytes := [0x2E]

def dotDot : Bytes := [0x2E, 0x2E]

/-- The names that an entry can have. -/
structure IsName (name : Bytes) : Prop where
  ne_nil : name ≠ []
  ne_dot : name ≠ dot
  ne_dotDot : name ≠ dotDot
  no_slash : slash ∉ name

instance : DecidablePred IsName := fun name =>
  decidable_of_iff (name ≠ [] ∧ name ≠ dot ∧ name ≠ dotDot ∧ slash ∉ name)
    ⟨fun ⟨hn, hd, hdd, hs⟩ => ⟨hn, hd, hdd, hs⟩, fun ⟨hn, hd, hdd, hs⟩ => ⟨hn, hd, hdd, hs⟩⟩

theorem IsName.of_step {step : Bytes} (hblank : ¬(step = [] ∨ step = dot)) (hup : step ≠ dotDot)
    (hslash : slash ∉ step) : IsName step :=
  ⟨fun h => hblank (.inl h), fun h => hblank (.inr h), hup, hslash⟩

/-- The parts between slashes, empty ones included. -/
def split : Bytes → List Bytes
  | [] => [[]]
  | b :: bs =>
    if b = slash then [] :: split bs
    else match split bs with
      | [] => [[b]]
      | p :: ps => (b :: p) :: ps

theorem split_ne_nil (path : Bytes) : split path ≠ [] := by
  cases path with
  | nil => simp [split]
  | cons b bs =>
    unfold split
    split
    · simp
    · split <;> simp

theorem slash_not_mem_of_mem_split {path part : Bytes} (h : part ∈ split path) : slash ∉ part := by
  induction path generalizing part with
  | nil => simp_all [split]
  | cons b bs ih =>
    rw [split] at h
    split at h
    · rcases List.mem_cons.mp h with rfl | h
      · exact List.not_mem_nil
      · exact ih h
    · next hb =>
      split at h
      · next hs => exact absurd hs (split_ne_nil bs)
      · next p ps hs =>
        rw [hs] at ih
        rcases List.mem_cons.mp h with rfl | h
        · exact List.not_mem_cons_of_ne_of_not_mem (Ne.symm hb) (ih List.mem_cons_self)
        · exact ih (List.mem_cons_of_mem _ h)

/-- The components that take a step: a name, or `..`. -/
def components (path : Bytes) : List Bytes :=
  (split path).filter fun c => c != [] && c != dot

/-- The last component, when it is a name. -/
def fileName (path : Bytes) : Option Bytes :=
  match (components path).getLast? with
  | none => none
  | some c => if c = dotDot then none else some c

def isAbsolute (path : Bytes) : Bool := path.head? == some slash

def endsWithSlash (path : Bytes) : Bool := path.getLast? == some slash

/-- The path of `name` under `base`; an absolute name stands alone. -/
def join (base name : Bytes) : Bytes :=
  if isAbsolute name then name
  else if base = [] || endsWithSlash base then base ++ name
  else base ++ slash :: name

def unsplit : List Bytes → Bytes
  | [] => []
  | [c] => c
  | c :: rest => c ++ slash :: unsplit rest

def parent (path : Bytes) : Bytes :=
  unsplit (((split path).reverse.dropWhile fun c => c == [] || c == dot).tail.reverse)

/-- The paths that end after a step of the given one, from the first step on. -/
def stages (path : Bytes) : List Bytes :=
  let steps := split path
  ((List.range steps.length).map fun n => unsplit (steps.take (n + 1))).filter (· != [])

end WorkflowCheck.Path
