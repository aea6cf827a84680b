import Mathlib.Data.List.Nodup
import WorkflowCheck.FileTree.Edit
import WorkflowCheck.Proofs.Except

/-! File trees with other contents in their files. Paths are followed by names, directories and
links alone, so they lead to the same places in both trees. A write to a file that is there is
such a change at one place. -/

namespace WorkflowCheck

def Entry.refill (f : Bytes → Bytes) : Entry → Entry
  | .directory => .directory
  | .file content => .file (f content)
  | .link target => .link target

namespace FileTree

/-- The same tree with the content of each file made from the old one. -/
def refill (t : FileTree) (f : Place → Bytes → Bytes) : FileTree :=
  { t with
    entries := t.entries.map fun e => (e.1, e.2.refill (f e.1))
    distinct := by simpa [Function.comp_def] using t.distinct
    named := List.forall_mem_map.mpr t.named }

variable (t : FileTree) (f : Place → Bytes → Bytes)

theorem lookup_map_refill (entries : List (Place × Entry)) (p : Place) :
    (entries.map fun e => (e.1, e.2.refill (f e.1))).lookup p =
      (entries.lookup p).map (Entry.refill (f p)) := by
  induction entries with
  | nil => rfl
  | cons e rest ih =>
    rw [List.map_cons, List.lookup_cons, List.lookup_cons, ih]
    by_cases h : p = e.1
    · subst h; simp
    · simp [beq_false_of_ne h]

theorem at?_refill (p : Place) : (t.refill f).at? p = (t.at? p).map (Entry.refill (f p)) := by
  unfold at?
  split
  · rfl
  · exact lookup_map_refill f t.entries p

theorem walk_refill (follow : Bool) (links : Nat) (place : Place) (steps : List Bytes) :
    (t.refill f).walk follow links place steps = t.walk follow links place steps := by
  fun_induction t.walk follow links place steps <;> rw [walk] <;>
    grind [at?_refill, Entry.refill]

theorem arrive_refill (follow : Bool) (path : Bytes) :
    (t.refill f).arrive follow path = t.arrive follow path := by
  simp only [arrive, walk_refill]
  rfl

theorem entry_refill (path : Bytes) :
    (t.refill f).entry path = (t.entry path).map fun e => (e.1, e.2.refill (f e.1)) := by
  unfold entry
  rw [arrive_refill]
  cases t.arrive true path with
  | error cause => rfl
  | ok arrival =>
    rw [ok_bind, ok_bind, at?_refill]
    cases t.at? arrival.place with
    | none => rfl
    | some e => cases e <;> cases arrival.slashed <;> rfl

theorem isDirectory_refill (path : Bytes) : (t.refill f).isDirectory path = t.isDirectory path := by
  unfold isDirectory
  rw [entry_refill]
  rcases t.entry path with cause | ⟨p, e⟩
  · rfl
  · cases e <;> rfl

theorem isFile_refill (path : Bytes) : (t.refill f).isFile path = t.isFile path := by
  unfold isFile
  rw [entry_refill]
  rcases t.entry path with cause | ⟨p, e⟩
  · rfl
  · cases e <;> rfl

theorem names_refill (directory : Place) : (t.refill f).names directory = t.names directory := by
  simp [names, refill, List.filterMap_map]

theorem list_refill (path : Bytes) : (t.refill f).list path = t.list path := by
  unfold list
  rw [entry_refill]
  rcases t.entry path with cause | ⟨p, e⟩
  · rfl
  · cases e <;> simp [Entry.refill, names_refill]

theorem read_refill {p : Place} {content : Bytes} {path : Bytes}
    (h : t.entry path = .ok (p, .file content)) :
    (t.refill f).read path = .ok (f p content) := by
  simp [read, entry_refill, h, Entry.refill]

theorem refill_congr {g : Place → Bytes → Bytes}
    (h : ∀ p content, (p, Entry.file content) ∈ t.entries → f p content = g p content) :
    t.refill f = t.refill g := by
  have he : (t.refill f).entries = (t.refill g).entries := by
    apply List.map_congr_left
    rintro ⟨p, e⟩ hm
    cases e with
    | file content => simp [Entry.refill, h p content hm]
    | _ => rfl
  simp only [refill] at he ⊢
  simp only [he]

theorem refill_id : (t.refill fun _ content => content) = t := by
  have he : t.entries.map (fun e => (e.1, e.2.refill fun content => content)) = t.entries := by
    rw [List.map_congr_left (g := id), List.map_id]
    rintro ⟨p, e⟩ -
    cases e <;> rfl
  simp only [refill, he]

theorem refill_refill (g : Place → Bytes → Bytes) :
    (t.refill f).refill g = t.refill fun p content => g p (f p content) := by
  simp only [refill, List.map_map, FileTree.mk.injEq, and_true]
  apply List.map_congr_left
  rintro ⟨p, e⟩ -
  cases e <;> rfl

/-- The trees are the same but for the contents of files at some of the given places. -/
def EqOutside (places : List (Option Place)) (t u : FileTree) : Prop :=
  ∃ f : Place → Bytes → Bytes, u = t.refill f ∧ ∀ p, some p ∉ places → f p = id

variable {t}

theorem mem_entries_of_at? {p : Place} {e : Entry} (hp : p ≠ []) (h : t.at? p = some e) :
    (p, e) ∈ t.entries := by
  rw [at?, if_neg hp, List.lookup_eq_some_iff] at h
  obtain ⟨before, after, he, -⟩ := h
  simp [he]

theorem eq_of_mem_entries {p : Place} {e e' : Entry} (h : (p, e) ∈ t.entries)
    (h' : (p, e') ∈ t.entries) : e = e' :=
  congrArg Prod.snd (List.inj_on_of_nodup_map t.distinct h h' rfl)

theorem arrive_of_entry_file {path : Bytes} {p : Place} {content : Bytes}
    (h : t.entry path = .ok (p, .file content)) :
    t.arrive true path = .ok ⟨p, false⟩ ∧ t.at? p = some (.file content) := by
  obtain ⟨⟨q, slashed⟩, ha, he⟩ := bind_eq_ok.mp h
  cases hat : t.at? q with
  | none => simp [hat] at he
  | some e => cases e <;> cases slashed <;> simp_all

theorem mem_entries_of_entry_file {path : Bytes} {p : Place} {content : Bytes}
    (h : t.entry path = .ok (p, .file content)) : (p, Entry.file content) ∈ t.entries := by
  have hat := (arrive_of_entry_file h).2
  refine mem_entries_of_at? ?_ hat
  rintro rfl
  simp [at?] at hat

def overwrite (place : Place) (content : Bytes) (p : Place) (old : Bytes) : Bytes :=
  if p = place then content else old

theorem refill_overwrite_self {p : Place} {content : Bytes}
    (h : (p, Entry.file content) ∈ t.entries) : t.refill (overwrite p content) = t := by
  refine (refill_congr t _ ?_).trans t.refill_id
  intro q old hq
  unfold overwrite
  split
  · next hqp =>
    subst hqp
    exact (Entry.file.inj (eq_of_mem_entries hq h)).symm
  · rfl

theorem put_file_eq_refill {p : Place} {old : Bytes} (h : (p, Entry.file old) ∈ t.entries)
    (named : p.Named) (content : Bytes) :
    t.put p named (.file content) = t.refill (overwrite p content) := by
  have hp : p ∈ t.entries.map (·.1) := List.mem_map_of_mem (f := (·.1)) h
  simp only [put, dif_pos hp, refill, FileTree.mk.injEq, and_true]
  apply List.map_congr_left
  rintro ⟨q, e⟩ hm
  by_cases hq : q = p
  · subst hq
    rw [eq_of_mem_entries hm h]
    simp [Entry.refill, overwrite]
  · cases e <;> simp [Entry.refill, overwrite, hq]

/-- A write to a file that is there changes its content and nothing else. -/
theorem write_eq_refill {path : Bytes} {p : Place} {old : Bytes}
    (h : t.entry path = .ok (p, .file old)) (content : Bytes) :
    t.write path content = .ok (t.refill (overwrite p content)) := by
  obtain ⟨ha, hat⟩ := arrive_of_entry_file h
  have hreach : t.reach true path = .ok ⟨⟨p, false⟩, named_of_arrive ha⟩ := reach_eq_ok.mpr ha
  rw [← put_file_eq_refill (mem_entries_of_entry_file h) (named_of_arrive ha)]
  simp [write, hreach, hat]

end FileTree

end WorkflowCheck
