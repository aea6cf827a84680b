import WorkflowCheck.Failure
import WorkflowCheck.Path

/-! File trees. An entry stands at a place, which is the list of names that lead to it from the
root; each place has one entry. Paths are followed through directories and symbolic links from
the working directory on. They are taken apart at their slashes before that, so that they lead by
names alone. The order of the entries is the order in which directories list them. -/

namespace WorkflowCheck

abbrev Place := List Bytes

namespace Place

def Named (place : Place) : Prop := ∀ name ∈ place, Path.IsName name

instance : DecidablePred Named := fun place =>
  inferInstanceAs (Decidable (∀ name ∈ place, Path.IsName name))

theorem Named.nil : Named [] := nofun

theorem Named.concat {place : Place} {name : Bytes} (h : place.Named) (hn : Path.IsName name) :
    Named (place ++ [name]) := by
  intro other hother
  rcases List.mem_append.mp hother with hother | hother
  · exact h other hother
  · exact List.mem_singleton.mp hother ▸ hn

theorem Named.dropLast {place : Place} (h : place.Named) : Named place.dropLast :=
  fun name hname => h name ((List.dropLast_sublist place).subset hname)

end Place

inductive Entry where
  | directory
  | file (content : Bytes)
  | link (target : Bytes)
  deriving DecidableEq, Repr

structure FileTree where
  entries : List (Place × Entry)
  /-- The place that relative paths start from. -/
  working : Place
  distinct : (entries.map (·.1)).Nodup := by decide_cbv
  named : ∀ e ∈ entries, e.1.Named := by decide_cbv
  named_working : working.Named := by first | exact .nil | decide_cbv

/-- Where a path leads: a place that may be vacant, and whether a slash follows its name. -/
structure Arrival where
  place : Place
  slashed : Bool
  deriving DecidableEq, Repr

namespace FileTree

def empty : FileTree where
  entries := []
  working := []

def bare (name : Bytes) (h : Path.IsName name := by decide_cbv) : FileTree where
  entries := [([name], .directory)]
  working := [name]
  distinct := List.pairwise_singleton _ [name]
  named := List.forall_mem_singleton.mpr (Place.Named.nil.concat h)
  named_working := Place.Named.nil.concat h

/-- The root is a directory of its own. -/
def at? (t : FileTree) (place : Place) : Option Entry :=
  if place = [] then some .directory else t.entries.lookup place

def nameLimit : Nat := 255

def pathLimit : Nat := 4096

def linkLimit : Nat := 40

def start (t : FileTree) (path : Bytes) : Place := if Path.isAbsolute path then [] else t.working

/-- Goes on from a directory. Links in the middle are followed, the last one if `follow` says so
or a slash comes after it. -/
def walk (t : FileTree) (follow : Bool) : (links : Nat) → (place : Place) → (steps : List Bytes) →
    Except IoFault Arrival
  | _, place, [] => .ok ⟨place, false⟩
  | links, place, step :: rest =>
    if step = [] ∨ step = Path.dot then walk t follow links place rest
    else if step = Path.dotDot then walk t follow links place.dropLast rest
    else if nameLimit < step.length then .error .nameTooLong
    else
      let next := place ++ [step]
      let isLast := rest.all (· == [])
      match t.at? next with
      | some .directory => walk t follow links next rest
      | some (.file _) => if isLast then .ok ⟨next, rest != []⟩ else .error .notADirectory
      | none => if isLast then .ok ⟨next, rest != []⟩ else .error .notFound
      | some (.link target) =>
        if rest = [] ∧ !follow then .ok ⟨next, false⟩
        else match links with
          | 0 => .error .tooManyLinks
          | links + 1 =>
            let origin := if Path.isAbsolute target then [] else place
            walk t follow links origin (Path.split target ++ rest)
termination_by links _ steps => (links, steps.length)

def arrive (t : FileTree) (follow : Bool) (path : Bytes) : Except IoFault Arrival :=
  if 0 ∈ path then .error .zeroByte
  else if path = [] then .error .notFound
  else if pathLimit ≤ path.length then .error .nameTooLong
  else t.walk follow linkLimit (t.start path) (Path.split path)

section

variable {t : FileTree} {follow : Bool} {place : Place} {arrival : Arrival}

theorem named_of_walk {links : Nat} {steps : List Bytes} (hplace : place.Named)
    (hsteps : ∀ step ∈ steps, Path.slash ∉ step)
    (h : t.walk follow links place steps = .ok arrival) : arrival.place.Named := by
  fun_induction t.walk follow links place steps with
  | case1 =>
    cases h
    exact hplace
  | case2 _ _ _ _ _ ih => exact ih hplace (List.forall_mem_cons.mp hsteps).2 h
  | case3 _ _ _ _ ih => exact ih hplace.dropLast (List.forall_mem_cons.mp hsteps).2 h
  | case4 | case7 | case9 | case11 => nomatch h
  | case5 _ place step rest hblank hup _ _ _ ih =>
    obtain ⟨hstep, hrest⟩ := List.forall_mem_cons.mp hsteps
    exact ih (hplace.concat (.of_step hblank hup hstep)) hrest h
  | case6 _ place step rest hblank hup | case8 _ place step rest hblank hup
  | case10 _ place step rest hblank hup =>
    cases h
    exact hplace.concat (.of_step hblank hup (List.forall_mem_cons.mp hsteps).1)
  | case12 place _ rest _ _ _ _ target _ _ _ _ ih =>
    have horigin : Place.Named (if Path.isAbsolute target then [] else place) := by
      split
      · exact .nil
      · exact hplace
    refine ih horigin (fun part hpart => ?_) h
    rcases List.mem_append.mp hpart with hpart | hpart
    · exact Path.slash_not_mem_of_mem_split hpart
    · exact (List.forall_mem_cons.mp hsteps).2 part hpart

theorem named_start (t : FileTree) (path : Bytes) : (t.start path).Named := by
  unfold start
  split
  · exact .nil
  · exact t.named_working

theorem named_of_arrive {path : Bytes} (h : t.arrive follow path = .ok arrival) :
    arrival.place.Named := by
  unfold arrive at h
  split at h
  · nomatch h
  · split at h
    · nomatch h
    · split at h
      · nomatch h
      · exact named_of_walk (t.named_start path) (fun _ => Path.slash_not_mem_of_mem_split) h

end

def entry (t : FileTree) (path : Bytes) : Except IoFault (Place × Entry) := do
  let arrival ← t.arrive true path
  match t.at? arrival.place with
  | none => .error .notFound
  | some .directory => .ok (arrival.place, .directory)
  | some e => if arrival.slashed then .error .notADirectory else .ok (arrival.place, e)

def has (t : FileTree) (path : Bytes) : Bool := (t.entry path).toBool

def isDirectory (t : FileTree) (path : Bytes) : Bool :=
  match t.entry path with
  | .ok (_, .directory) => true
  | _ => false

def isFile (t : FileTree) (path : Bytes) : Bool :=
  match t.entry path with
  | .ok (_, .file _) => true
  | _ => false

def read (t : FileTree) (path : Bytes) : Except IoFault Bytes := do
  match (← t.entry path).2 with
  | .file content => .ok content
  | .directory => .error .isADirectory
  | .link _ => .error .tooManyLinks

def readText (t : FileTree) (path : Bytes) : Except IoFault String := do
  match Text.decode? (← t.read path) with
  | some text => .ok text
  | none => .error .notText

def nameIn? (directory : Place) (place : Place) : Option Bytes :=
  match place.getLast? with
  | some name => if place.dropLast = directory then some name else none
  | none => none

def names (t : FileTree) (directory : Place) : List Bytes :=
  t.entries.filterMap fun e => nameIn? directory e.1

def list (t : FileTree) (path : Bytes) : Except IoFault (List Bytes) := do
  match ← t.entry path with
  | (place, .directory) => .ok (t.names place)
  | _ => .error .notADirectory

end FileTree

end WorkflowCheck
