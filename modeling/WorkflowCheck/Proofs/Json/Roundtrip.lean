import WorkflowCheck.Proofs.Json.Spelling

/-! A written value is read back as it was, in whatever layout, unless it nests deeper than the
reader goes. The numbers of such a value are natural numbers of 64 bits: those have one way to be
written. -/

namespace WorkflowCheck

namespace Value

mutual

/-- How many brackets lie in one another. -/
def depth : Value → Nat
  | .array items => depthOfItems items + 1
  | .object entries => depthOfEntries entries + 1
  | .null | .boolean _ | .number _ | .string _ => 0

def depthOfItems : List Value → Nat
  | [] => 0
  | v :: rest => max v.depth (depthOfItems rest)

def depthOfEntries : List (String × Value) → Nat
  | [] => 0
  | (_, v) :: rest => max v.depth (depthOfEntries rest)

end

mutual

/-- All numbers are natural numbers of 64 bits in decimal. -/
def Exact : Value → Prop
  | .array items => ExactItems items
  | .object entries => ExactEntries entries
  | .number literal => ∃ n < Json.Number.naturalLimit, literal = toString n
  | .null | .boolean _ | .string _ => True

def ExactItems : List Value → Prop
  | [] => True
  | v :: rest => v.Exact ∧ ExactItems rest

def ExactEntries : List (String × Value) → Prop
  | [] => True
  | (_, v) :: rest => v.Exact ∧ ExactEntries rest

end

end Value

namespace Json

variable {l : Layout} {t : List Char} {v : Value}

namespace Reads

theorem word_null (rest : List Char) : Reads readNull (['n', 'u', 'l', 'l'] ++ rest) () rest :=
  (advance 'n' _).bind (word ['u', 'l', 'l'] rest)

theorem word_true (rest : List Char) : Reads readTrue (['t', 'r', 'u', 'e'] ++ rest) true rest :=
  (advance 't' _).bind ((word ['r', 'u', 'e'] rest).bind (pure _ _))

theorem word_false (rest : List Char) :
    Reads readFalse (['f', 'a', 'l', 's', 'e'] ++ rest) false rest :=
  (advance 'f' _).bind ((word ['a', 'l', 's', 'e'] rest).bind (pure _ _))

end Reads

theorem spells_null : Spells readScalar ['n', 'u', 'l', 'l'] .null where
  opens := ⟨'n', _, rfl, rfl, by decide⟩
  reads hb _ := (Reads.start_cons hb rfl).bind ((Reads.word_null _).bind (.pure _ _))

theorem spells_true : Spells readScalar ['t', 'r', 'u', 'e'] (.boolean true) where
  opens := ⟨'t', _, rfl, rfl, by decide⟩
  reads hb _ := (Reads.start_cons hb rfl).bind ((Reads.word_true _).bind (.pure _ _))

theorem spells_false : Spells readScalar ['f', 'a', 'l', 's', 'e'] (.boolean false) where
  opens := ⟨'f', _, rfl, rfl, by decide⟩
  reads hb _ := (Reads.start_cons hb rfl).bind ((Reads.word_false _).bind (.pure _ _))

theorem spells_string (s : String) : Spells readScalar (quote s) (.string s) where
  opens := ⟨'"', _, rfl, rfl, by decide⟩
  reads hb _ := (Reads.start_cons hb rfl).bind ((Reads.quoted s _).bind (.pure _ _))

theorem isBlank_of_isDigit {c : Char} (hc : c.isDigit = true) : isBlank c = false := by
  simp [isBlank, isDigit_ne hc (d := ' ') rfl, isDigit_ne hc (d := '\n') rfl,
    isDigit_ne hc (d := '\t') rfl, isDigit_ne hc (d := '\r') rfl]

theorem spells_digits {n : Nat} (hn : n < Number.naturalLimit) :
    Spells readScalar (Nat.toDigits 10 n) (.number (toString n)) := by
  obtain ⟨c, cs, he, hc⟩ := Reads.exists_digit_cons n
  refine ⟨⟨c, cs, he, isBlank_of_isDigit hc, isDigit_ne hc rfl⟩, ?_⟩
  intro bs rest hb hr
  have hnumber := Reads.number hn hr
  rw [he, List.cons_append] at hnumber ⊢
  refine (Reads.start_cons hb (isBlank_of_isDigit hc)).bind ?_
  -- No scalar of another kind begins with a digit.
  have hnull := isDigit_ne hc (d := 'n') rfl
  have htrue := isDigit_ne hc (d := 't') rfl
  have hfalse := isDigit_ne hc (d := 'f') rfl
  have hquote := isDigit_ne hc (d := '"') rfl
  simp only [hc, Bool.or_true, if_true]
  exact hnumber.bind (.pure _ _)

/-- The reader of values leaves all that begins with no bracket to the reader of scalars. -/
theorem Spells.of_scalar (h : Spells readScalar t v) (ha : t.head? ≠ some '[')
    (ho : t.head? ≠ some '{') (n : Nat) : Spells (readValue n) t v where
  opens := h.opens
  reads := by
    intro bs rest hb hr
    obtain ⟨c, hs, hc, -⟩ := Reads.start_opens rest hb h.opens
    rw [hc] at ha ho
    cases n with
    | zero =>
      refine hs.bind ?_
      split
      · contradiction
      · contradiction
      · exact h.reads .nil hr
    | succ n =>
      refine hs.bind ?_
      split
      · contradiction
      · contradiction
      · exact h.reads .nil hr

theorem spells_number {m : Nat} (hm : m < Number.naturalLimit) (n : Nat) :
    Spells (readValue n) (toString m).toList (.number (toString m)) := by
  obtain ⟨c, cs, he, hc⟩ := Reads.exists_digit_cons m
  have hl : (toString m).toList = Nat.toDigits 10 m := by
    rw [Nat.toString_eq_repr, Nat.toList_repr]
  rw [hl]
  refine (spells_digits hm).of_scalar ?_ ?_ n
  · simpa [he] using isDigit_ne hc rfl
  · simpa [he] using isDigit_ne hc rfl

theorem Spells.array {ts : List (List Char)} {xs : List Value} {n : Nat} (level : Nat)
    (h : List.Forall₂ (Spells (readValue n)) ts xs) :
    Spells (readValue (n + 1)) (l.enclose level '[' ']' ts) (.array xs) where
  opens := l.opens_enclose level ts rfl (by decide)
  reads hb _ := (Reads.start_enclose level ts hb rfl).bind
    ((Reads.array level h _).bind (.pure _ _))

theorem Spells.object {ts : List (List Char)} {es : List (String × Value)} {n : Nat} (level : Nat)
    (h : List.Forall₂ (SpellsEntry l (readValue n)) ts es) :
    Spells (readValue (n + 1)) (l.enclose level '{' '}' ts) (.object es) where
  opens := l.opens_enclose level ts rfl (by decide)
  reads hb _ := (Reads.start_enclose level ts hb rfl).bind
    ((Reads.object level h _).bind (.pure _ _))

section Write

open Value

variable (l)

mutual

theorem spells_write (level n : Nat) :
    ∀ v : Value, v.Exact → v.depth ≤ n → Spells (readValue n) (l.write level v) v
  | .null, _, _ => spells_null.of_scalar (by decide) (by decide) n
  | .boolean true, _, _ => spells_true.of_scalar (by decide) (by decide) n
  | .boolean false, _, _ => spells_false.of_scalar (by decide) (by decide) n
  | .string s, _, _ => (spells_string s).of_scalar (by simp [quote]) (by simp [quote]) n
  | .number literal, h, _ => by
    obtain ⟨m, hm, rfl⟩ := h
    exact spells_number hm n
  | .array items, h, hn => by
    rw [depth] at hn
    obtain ⟨m, rfl⟩ : ∃ m, n = m + 1 := ⟨n - 1, by omega⟩
    exact .array level (spells_writeItems (level + 1) m items h (by omega))
  | .object entries, h, hn => by
    rw [depth] at hn
    obtain ⟨m, rfl⟩ : ∃ m, n = m + 1 := ⟨n - 1, by omega⟩
    exact .object level (spells_writeEntries (level + 1) m entries h (by omega))

theorem spells_writeItems (level n : Nat) :
    ∀ items, ExactItems items → depthOfItems items ≤ n →
      List.Forall₂ (Spells (readValue n)) (l.writeItems level items) items
  | [], _, _ => .nil
  | v :: rest, h, hn => by
    rw [depthOfItems] at hn
    exact .cons (spells_write level n v h.1 (by omega))
      (spells_writeItems level n rest h.2 (by omega))

theorem spells_writeEntries (level n : Nat) :
    ∀ entries, ExactEntries entries → depthOfEntries entries ≤ n →
      List.Forall₂ (SpellsEntry l (readValue n)) (l.writeEntries level entries) entries
  | [], _, _ => .nil
  | (k, v) :: rest, h, hn => by
    rw [depthOfEntries] at hn
    exact .cons ⟨_, rfl, spells_write level n v h.1 (by omega)⟩
      (spells_writeEntries level n rest h.2 (by omega))

end

end Write

theorem readAll_eq_ok {α : Type} {p : Read α} {text : String} {x : α} {bs : List Char}
    (h : Reads p text.toList x bs) (hb : Blank bs) : readAll p text = .ok x := by
  have hstart : Reads Read.start bs none [] := by
    have hend : ∀ c ∈ ([] : List Char).head?, isBlank c = false := by simp
    simpa using Reads.start hb hend
  obtain ⟨offset, hwhole⟩ := h.bind (f := fun x => do
    if (← Read.start).isSome then Read.failAhead .trailingCharacters
    return x) (hstart.bind (.pure x [])) 0
  unfold readAll
  simp only [StateT.run]
  rw [hwhole]

theorem readAll_write {v : Value} (l : Layout) (hx : v.Exact) {n : Nat} (hn : v.depth ≤ n)
    {bs : List Char} (hb : Blank bs) :
    readAll (readValue n) (String.ofList (l.write 0 v ++ bs)) = .ok v := by
  refine readAll_eq_ok ?_ hb
  rw [String.toList_ofList]
  have hs : Stops bs := by simpa using hb.stops .nil
  exact (spells_write l 0 n v hx hn).reads .nil hs

end Json

end WorkflowCheck
