import Mathlib.Logic.Relation
import WorkflowCheck.Engine
import WorkflowCheck.Proofs.Value.Ordered
import WorkflowCheck.Snapshot

/-! The order in which the entries of objects are written does not matter. A value whose objects have
each key once is brought into the same order from any other, and the rules see nothing but that. -/

namespace WorkflowCheck

namespace Value

mutual

/-- In every object each key stands once. -/
def Distinct : Value → Prop
  | .array items => DistinctItems items
  | .object entries => (entries.map (·.1)).Nodup ∧ DistinctEntries entries
  | .null | .boolean _ | .number _ | .string _ => True

def DistinctItems : List Value → Prop
  | [] => True
  | v :: rest => v.Distinct ∧ DistinctItems rest

def DistinctEntries : List (String × Value) → Prop
  | [] => True
  | (_, v) :: rest => v.Distinct ∧ DistinctEntries rest

end

/-- The second value is the first one with the entries of one of its objects in another order. -/
inductive Shuffled : Value → Value → Prop where
  | entries {entries entries' : List (String × Value)} (h : entries.Perm entries') :
    Shuffled (.object entries) (.object entries')
  | item {v w : Value} (before after : List Value) (h : Shuffled v w) :
    Shuffled (.array (before ++ v :: after)) (.array (before ++ w :: after))
  | entry {v w : Value} (before : List (String × Value)) (key : String)
    (after : List (String × Value)) (h : Shuffled v w) :
    Shuffled (.object (before ++ (key, v) :: after)) (.object (before ++ (key, w) :: after))

abbrev Reordered : Value → Value → Prop := Relation.ReflTransGen Shuffled

theorem distinctItems_iff {items : List Value} : DistinctItems items ↔ ∀ v ∈ items, v.Distinct := by
  induction items with
  | nil => simp [DistinctItems]
  | cons v rest ih => rw [DistinctItems, ih, List.forall_mem_cons]

theorem distinctEntries_iff {entries : List (String × Value)} :
    DistinctEntries entries ↔ ∀ e ∈ entries, e.2.Distinct := by
  induction entries with
  | nil => simp [DistinctEntries]
  | cons e rest ih => rw [DistinctEntries, ih, List.forall_mem_cons]

theorem sortedItems_eq (items : List Value) : sortedItems items = items.map sorted := by
  induction items with
  | nil => rfl
  | cons v rest ih => rw [sortedItems, ih, List.map_cons]

theorem sortedEntries_eq (entries : List (String × Value)) :
    sortedEntries entries = entries.map fun e => (e.1, e.2.sorted) := by
  induction entries with
  | nil => rfl
  | cons e rest ih => rw [sortedEntries, ih, List.map_cons]

section

variable {α : Type} {entries entries' : List (String × α)} {key : String} {value : α}

theorem insertEntry_perm (h : key ∉ entries.map (·.1)) :
    (insertEntry key value entries).Perm ((key, value) :: entries) := by
  induction entries with
  | nil => exact .refl _
  | cons e rest ih =>
    rw [List.map_cons, List.mem_cons, not_or] at h
    rw [insertEntry]
    split_ifs with hlt heq
    · exact .refl _
    · exact absurd heq h.1
    · exact ((ih h.2).cons e).trans (.swap _ _ _)

/-- Without repeats of a key nothing is replaced, so that all entries are kept. -/
theorem foldl_insertEntry_perm {m : List (String × α)} (h : ((m ++ entries).map (·.1)).Nodup) :
    (entries.foldl (fun m e => insertEntry e.1 e.2 m) m).Perm (m ++ entries) := by
  induction entries generalizing m with
  | nil => simp
  | cons e rest ih =>
    have hmoved : (m ++ e :: rest).Perm (e :: m ++ rest) := List.perm_middle
    have hnodup : ((e :: m ++ rest).map (·.1)).Nodup := (hmoved.map _).nodup_iff.mp h
    have hnew : e.1 ∉ m.map (·.1) := by
      rw [List.cons_append, List.map_cons, List.nodup_cons, List.map_append] at hnodup
      exact fun hm => hnodup.1 (List.mem_append_left _ hm)
    have hstep : (insertEntry e.1 e.2 m ++ rest).Perm (e :: m ++ rest) :=
      (insertEntry_perm hnew).append_right rest
    exact (ih ((hstep.map _).nodup_iff.mpr hnodup)).trans (hstep.trans hmoved.symm)

theorem sortEntries_perm (h : (entries.map (·.1)).Nodup) : (sortEntries entries).Perm entries :=
  foldl_insertEntry_perm h

theorem sortEntries_eq_of_perm (h : entries.Perm entries') (hd : (entries.map (·.1)).Nodup) :
    sortEntries entries = sortEntries entries' := by
  have hd' : (entries'.map (·.1)).Nodup := (h.map _).nodup_iff.mp hd
  have hperm : (sortEntries entries).Perm (sortEntries entries') :=
    ((sortEntries_perm hd).trans h).trans (sortEntries_perm hd').symm
  refine hperm.eq_of_pairwise ?_ (List.pairwise_map.mp (ascending_sortEntries entries))
    (List.pairwise_map.mp (ascending_sortEntries entries'))
  exact fun a b _ _ hab hba => absurd hba (lt_asymm hab)

end

variable {v w : Value}

theorem Shuffled.distinct (h : v.Shuffled w) (hv : v.Distinct) : w.Distinct := by
  induction h with
  | entries h =>
    rw [Distinct, distinctEntries_iff] at hv ⊢
    exact ⟨(h.map _).nodup_iff.mp hv.1, fun e he => hv.2 e (h.mem_iff.mpr he)⟩
  | item before after _ ih =>
    simp only [Distinct, distinctItems_iff, List.forall_mem_append, List.forall_mem_cons] at hv ⊢
    exact ⟨hv.1, ih hv.2.1, hv.2.2⟩
  | entry before key after _ ih =>
    simp only [Distinct, distinctEntries_iff, List.forall_mem_append, List.forall_mem_cons,
      List.map_append, List.map_cons] at hv ⊢
    exact ⟨hv.1, hv.2.1, ih hv.2.2.1, hv.2.2.2⟩

theorem Shuffled.sorted_eq (h : v.Shuffled w) (hv : v.Distinct) : v.sorted = w.sorted := by
  induction h with
  | @entries entries entries' h =>
    rw [Distinct] at hv
    have hkeys : (entries.map fun e => (e.1, e.2.sorted)).map (·.1) = entries.map (·.1) := by
      rw [List.map_map]
      rfl
    rw [sorted, sorted, sortedEntries_eq, sortedEntries_eq]
    exact congrArg Value.object (sortEntries_eq_of_perm (h.map _) (hkeys ▸ hv.1))
  | item before after _ ih =>
    simp only [Distinct, distinctItems_iff, List.forall_mem_append, List.forall_mem_cons] at hv
    simp only [sorted, sortedItems_eq, List.map_append, List.map_cons, ih hv.2.1]
  | entry before key after _ ih =>
    simp only [Distinct, distinctEntries_iff, List.forall_mem_append, List.forall_mem_cons] at hv
    simp only [sorted, sortedEntries_eq, List.map_append, List.map_cons, ih hv.2.2.1]

theorem Reordered.sorted_eq (h : v.Reordered w) (hv : v.Distinct) : w.Distinct ∧ v.sorted = w.sorted := by
  induction h with
  | refl => exact ⟨hv, rfl⟩
  | tail _ hstep ih => exact ⟨hstep.distinct ih.1, ih.2.trans (hstep.sorted_eq ih.1)⟩

end Value

/-- The entries of a document may stand in any order at every level: the built-in engine comes to the
same state for either kind, and so do two texts that spell the document in two orders. -/
theorem entry_order_irrelevant {v w : Value} (h : v.Reordered w) (hv : v.Distinct) (kind : Kind) :
    (Engine.examineValue kind v.sorted).2 = (Engine.examineValue kind w.sorted).2 ∧
    ∀ text text', Yaml.read text = .ok v → Yaml.read text' = .ok w →
      Engine.builtin.examine kind text = Engine.builtin.examine kind text' ∧
      Engine.builtin.validate kind text = Engine.builtin.validate kind text' ∧
      (Engine.builtin.validate kind text).snapshot =
        (Engine.builtin.validate kind text').snapshot := by
  have hsorted : v.sorted = w.sorted := (h.sorted_eq hv).2
  refine ⟨by rw [hsorted], fun text text' hread hread' => ?_⟩
  have hexamine : Engine.builtin.examine kind text = Engine.builtin.examine kind text' := by
    simp only [Engine.builtin, hread, hread', hsorted]
  have hvalidate : Engine.builtin.validate kind text = Engine.builtin.validate kind text' :=
    congrArg Prod.snd hexamine
  exact ⟨hexamine, hvalidate, congrArg State.snapshot hvalidate⟩

namespace Letters

open Yaml

def event (index : Nat) (kind : EventKind) : Event := ⟨kind, ⟨index, 0, index⟩⟩

/-- A key without a value. -/
def bare (index : Nat) (key : String) : List Event :=
  [event index (.scalar .none true key), event (index + 1) (.scalar .none true "")]

/-- The events of two keys with two bare keys each, all of one letter. -/
def events (a b c d e f : String) : List Event :=
  [event 0 (.mappingStart .none), event 1 (.scalar .none true a), event 4 (.mappingStart .none)] ++
    bare 5 b ++ bare 8 c ++ [event 9 .mappingEnd, event 12 (.scalar .none true d),
    event 15 (.mappingStart .none)] ++ bare 16 e ++ bare 19 f ++
    [event 20 .mappingEnd, event 21 .mappingEnd]

def document (a b c d e f : String) : Value :=
  .object [(a, .object [(b, .null), (c, .null)]), (d, .object [(e, .null), (f, .null)])]

theorem read_eq {text a b c d e f : String}
    (hevents : (EventStream.ofText text).events.toList = events a b c d e f)
    (hfault : (EventStream.ofText text).fault.isNone = true)
    (halone : (EventStream.ofText text).isAlone = true) :
    Yaml.read text = .ok (document a b c d e f) := by
  rw [Option.isNone_iff_eq_none] at hfault
  have hsteps : Itinerary.ofEvents (EventStream.ofText text) =
      Itinerary.take none (events a b c d e f) ⟨#[], #[], []⟩ := by
    rw [Itinerary.ofEvents, hfault, hevents]
  simp [Yaml.read, hsteps, halone, events, bare, event, document, Itinerary.take,
    Itinerary.Draft.note, Itinerary.Draft.add, depthLimit, Properties.none, Itinerary.value,
    Itinerary.node, Itinerary.entries, Itinerary.key, Itinerary.plainKey, Itinerary.step,
    Itinerary.Progress.next, Scalar.isCustom, Scalar.value, Scalar.plain, bind, Except.bind, pure,
    Except.pure, Functor.map, Except.map]

end Letters

theorem shuffled_letters_alike :
    (Letters.document "b" "d" "c" "a" "f" "e").Distinct ∧
    (Letters.document "b" "d" "c" "a" "f" "e").Reordered (Letters.document "a" "f" "e" "b" "c" "d") ∧
    Yaml.read "{b: {d, c}, a: {f, e}}" = .ok (Letters.document "b" "d" "c" "a" "f" "e") ∧
    Yaml.read "{a: {f, e}, b: {c, d}}" = .ok (Letters.document "a" "f" "e" "b" "c" "d") ∧
    Engine.builtin.validate .workflow "{b: {d, c}, a: {f, e}}" =
      Engine.builtin.validate .workflow "{a: {f, e}, b: {c, d}}" := by
  have hdistinct : (Letters.document "b" "d" "c" "a" "f" "e").Distinct := by
    simp [Letters.document, Value.Distinct, Value.DistinctEntries]
  have hreordered : (Letters.document "b" "d" "c" "a" "f" "e").Reordered
      (Letters.document "a" "f" "e" "b" "c" "d") := by
    refine .tail (.single (.entry [] "b" _ (.entries (.swap _ _ _)))) ?_
    exact .entries (.swap _ _ _)
  have hread : Yaml.read "{b: {d, c}, a: {f, e}}" = .ok (Letters.document "b" "d" "c" "a" "f" "e") :=
    Letters.read_eq (by decide +kernel) (by decide +kernel) (by decide +kernel)
  have hread' : Yaml.read "{a: {f, e}, b: {c, d}}" = .ok (Letters.document "a" "f" "e" "b" "c" "d") :=
    Letters.read_eq (by decide +kernel) (by decide +kernel) (by decide +kernel)
  have h := entry_order_irrelevant hreordered hdistinct .workflow
  exact ⟨hdistinct, hreordered, hread, hread', (h.2 _ _ hread hread').2.1⟩

end WorkflowCheck
