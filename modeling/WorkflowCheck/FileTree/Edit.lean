import WorkflowCheck.FileTree

/-! Changes of a file tree. Writing goes through links, and a place that is written keeps its
position among the entries. -/

namespace WorkflowCheck.FileTree

def replaceAt (place : Place) (entry : Entry) (entries : List (Place × Entry)) :
    List (Place × Entry) :=
  entries.map fun e => if e.1 = place then (place, entry) else e

theorem map_fst_replaceAt (place : Place) (entry : Entry) (entries : List (Place × Entry)) :
    (replaceAt place entry entries).map (·.1) = entries.map (·.1) := by
  simp only [replaceAt, List.map_map]
  apply List.map_congr_left
  intro e _
  simp only [Function.comp]
  split
  · simp_all
  · rfl

theorem named_of_mem_replaceAt {place : Place} {entry : Entry} {entries : List (Place × Entry)}
    (h : ∀ e ∈ entries, e.1.Named) : ∀ e ∈ replaceAt place entry entries, e.1.Named := by
  have hplaces : ∀ p ∈ entries.map (·.1), p.Named := List.forall_mem_map.mpr h
  rw [← map_fst_replaceAt place entry] at hplaces
  exact List.forall_mem_map.mp hplaces

def put (t : FileTree) (place : Place) (named : place.Named) (entry : Entry) : FileTree :=
  if h : place ∈ t.entries.map (·.1) then
    { t with
      entries := replaceAt place entry t.entries
      distinct := by
        rw [map_fst_replaceAt]
        exact t.distinct
      named := named_of_mem_replaceAt t.named }
  else
    { t with
      entries := t.entries ++ [(place, entry)]
      distinct := by
        rw [List.map_append, List.nodup_append]
        refine ⟨t.distinct, by simp, ?_⟩
        intro a ha b hb
        simp only [List.map_cons, List.map_nil, List.mem_singleton] at hb
        rintro rfl
        exact h (hb ▸ ha)
      named := List.forall_mem_append.mpr ⟨t.named, List.forall_mem_singleton.mpr named⟩ }

/-- Takes out a place and all that lies below it. -/
def cut (t : FileTree) (place : Place) : FileTree :=
  { t with
    entries := t.entries.filter fun e => !place.isPrefixOf e.1
    distinct := t.distinct.sublist ((List.filter_sublist).map _)
    named := fun e he => t.named e (List.mem_filter.mp he).1 }

/-- Where a path leads to, as a place that an entry can be put at. -/
def reach (t : FileTree) (follow : Bool) (path : Bytes) :
    Except IoFault { arrival : Arrival // arrival.place.Named } :=
  match h : t.arrive follow path with
  | .error cause => .error cause
  | .ok arrival => .ok ⟨arrival, named_of_arrive h⟩

theorem reach_eq_ok {t : FileTree} {follow : Bool} {path : Bytes}
    {arrival : { arrival : Arrival // arrival.place.Named }} :
    t.reach follow path = .ok arrival ↔ t.arrive follow path = .ok arrival.1 := by
  unfold reach
  split
  · next h => simp [h]
  · next h => simp [h, Subtype.ext_iff]

/-- Writes a whole file, which is made if it is not there. -/
def write (t : FileTree) (path : Bytes) (content : Bytes) : Except IoFault FileTree := do
  let ⟨arrival, named⟩ ← t.reach true path
  if arrival.slashed then .error .isADirectory
  match t.at? arrival.place with
  | some .directory => .error .isADirectory
  | _ => .ok (t.put arrival.place named (.file content))

def writeText (t : FileTree) (path : Bytes) (text : String) : Except IoFault FileTree :=
  t.write path (Text.encode text)

def makeDirectory (t : FileTree) (path : Bytes) : Except IoFault FileTree := do
  let ⟨arrival, named⟩ ← t.reach false path
  match t.at? arrival.place with
  | some _ => .error .occupied
  | none => .ok (t.put arrival.place named .directory)

def ensureDirectory (t : FileTree) (path : Bytes) : Except IoFault FileTree :=
  match t.makeDirectory path with
  | .ok t => .ok t
  | .error cause => if t.isDirectory path then .ok t else .error cause

/-- Makes directories one after the other. Those before a failure stay. -/
def ensureAll (t : FileTree) : List Bytes → FileTree × Option IoFault
  | [] => (t, none)
  | path :: rest =>
    match t.ensureDirectory path with
    | .ok t => t.ensureAll rest
    | .error cause => (t, some cause)

def makeDirectories (t : FileTree) (path : Bytes) : FileTree × Option IoFault :=
  match t.ensureDirectory path with
  | .ok t => (t, none)
  | .error .notFound => t.ensureAll (Path.stages path)
  | .error cause => (t, some cause)

def link (t : FileTree) (target path : Bytes) : Except IoFault FileTree := do
  if 0 ∈ target then .error .zeroByte
  let ⟨arrival, named⟩ ← t.reach false path
  match t.at? arrival.place with
  | some _ => .error .occupied
  | none =>
    if target = [] || arrival.slashed then .error .notFound
    else .ok (t.put arrival.place named (.link target))

def remove (t : FileTree) (path : Bytes) : Except IoFault FileTree := do
  let arrival ← t.arrive false path
  match t.at? arrival.place with
  | none => .error .notFound
  | some (.file _) => if arrival.slashed then .error .notADirectory else .ok (t.cut arrival.place)
  | some _ => .ok (t.cut arrival.place)

/-- The same tree with relative paths starting from another directory. -/
def enter (t : FileTree) (path : Bytes) : Except IoFault FileTree := do
  let ⟨arrival, named⟩ ← t.reach true path
  match t.at? arrival.place with
  | some .directory => .ok { t with working := arrival.place, named_working := named }
  | some _ => .error .notADirectory
  | none => .error .notFound

end WorkflowCheck.FileTree
