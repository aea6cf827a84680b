import Mathlib.Data.List.Forall2
import WorkflowCheck.Proofs.Json.Layout
import WorkflowCheck.Proofs.Json.Number
import WorkflowCheck.Proofs.Json.Quoted

/-! Texts that a reader takes for a value wherever they stand, and how the texts of items and
entries make up the text of an array or an object. -/

namespace WorkflowCheck.Json

/-- A text begins like an item: with neither a blank nor the end of the array. -/
def Opens (t : List Char) : Prop := ∃ c cs, t = c :: cs ∧ isBlank c = false ∧ c ≠ ']'

/-- A reader takes a text for a value, with blanks in front and whatever does not go on with it
behind. -/
structure Spells {α : Type} (p : Read α) (t : List Char) (x : α) : Prop where
  opens : Opens t
  reads : ∀ {bs rest}, Blank bs → Stops rest → Reads p (bs ++ (t ++ rest)) x rest

/-- An entry of an object whose value the reader takes. -/
def SpellsEntry {α : Type} (l : Layout) (p : Read α) (t : List Char) (e : String × α) : Prop :=
  ∃ value, t = l.entry e.1 value ∧ Spells p value e.2

theorem Stops.cons {c : Char} (rest : List Char) (h : c.isDigit = false) (hd : c ≠ '.')
    (he : c ≠ 'e') (hE : c ≠ 'E') : Stops (c :: rest) := by
  intro d hd'
  cases hd'
  exact ⟨h, hd, he, hE⟩

theorem Stops.bracket (rest : List Char) : Stops (']' :: rest) :=
  .cons rest rfl (by decide) (by decide) (by decide)

theorem Stops.brace (rest : List Char) : Stops ('}' :: rest) :=
  .cons rest rfl (by decide) (by decide) (by decide)

theorem Stops.nil : Stops [] := by simp [Stops]

theorem stops_of_isBlank {c : Char} (hc : isBlank c = true) (rest : List Char) :
    Stops (c :: rest) := by
  simp only [isBlank, Bool.or_eq_true, beq_iff_eq] at hc
  rcases hc with ((rfl | rfl) | rfl) | rfl <;> exact .cons rest rfl (by decide) (by decide) (by decide)

theorem Blank.stops {bs rest : List Char} (hb : Blank bs) (hr : Stops rest) : Stops (bs ++ rest) := by
  cases bs with
  | nil => exact hr
  | cons b bs => exact stops_of_isBlank (hb b List.mem_cons_self) _

namespace Layout

variable (l : Layout)

theorem stops_inside (level : Nat) (ts : List (List Char)) {bs rest : List Char} (hb : Blank bs)
    (hr : Stops rest) : Stops (l.inside false level ts ++ (bs ++ rest)) := by
  cases ts with
  | nil => exact hb.stops hr
  | cons t ts => exact .cons _ rfl (by decide) (by decide) (by decide)

/-- Each text but the first makes the whole longer by its comma. -/
theorem length_le_inside (first : Bool) (level : Nat) (ts : List (List Char)) :
    ts.length ≤ (l.inside first level ts).length + 1 := by
  have hfurther : ∀ ts, ts.length ≤ (l.inside false level ts).length := by
    intro ts
    induction ts with
    | nil => simp
    | cons t ts ih =>
      simp only [inside, Bool.false_eq_true, if_false, List.length_append, List.length_cons,
        List.length_nil]
      omega
  cases ts with
  | nil => simp
  | cons t ts =>
    have := hfurther ts
    simp only [inside, List.length_append, List.length_cons]
    omega

theorem enclose_eq (level : Nat) (opening closing : Char) (ts : List (List Char)) :
    ∃ bs, Blank bs ∧
      l.enclose level opening closing ts = opening :: (l.inside true (level + 1) ts ++ (bs ++ [closing])) := by
  cases ts with
  | nil => exact ⟨[], .nil, rfl⟩
  | cons t ts => exact ⟨l.gap level, l.blank_gap level, rfl⟩

theorem opens_enclose (level : Nat) {opening closing : Char} (ts : List (List Char))
    (hb : isBlank opening = false) (ho : opening ≠ ']') :
    Opens (l.enclose level opening closing ts) := by
  obtain ⟨bs, -, he⟩ := l.enclose_eq level opening closing ts
  exact ⟨opening, _, he, hb, ho⟩

end Layout

namespace Reads

variable {α : Type} {l : Layout} {p : Read α}

section Loops

variable {bs t rest : List Char}

theorem start_opens (rest : List Char) (hb : Blank bs) (ht : Opens t) :
    ∃ c, Reads Read.start (bs ++ (t ++ rest)) (some c) (t ++ rest) ∧ t.head? = some c ∧ c ≠ ']' := by
  obtain ⟨c, cs, rfl, hc, hne⟩ := ht
  exact ⟨c, start_cons hb hc, rfl, hne⟩

theorem start_enclose (level : Nat) {opening closing : Char} (ts : List (List Char)) (hb : Blank bs)
    (ho : isBlank opening = false) :
    Reads Read.start (bs ++ (l.enclose level opening closing ts ++ rest)) (some opening)
      (l.enclose level opening closing ts ++ rest) := by
  obtain ⟨_, -, he⟩ := l.enclose_eq level opening closing ts
  rw [he]
  exact start_cons hb ho

theorem hasItem (first : Bool) (hb : Blank bs) (ht : Opens t) :
    Reads (Read.hasItem first) ((if first then [] else [',']) ++ (bs ++ (t ++ rest))) true
      (t ++ rest) := by
  obtain ⟨c, hs, -, hc⟩ := start_opens rest hb ht
  cases first with
  | true =>
    refine hs.bind ?_
    split
    · contradiction
    · rename_i heq
      exact absurd (Option.some.inj heq) hc
    · exact pure _ _
  | false =>
    refine (start_here rfl _).bind ((advance ',' _).bind (hs.bind ?_))
    split
    · contradiction
    · rename_i heq
      exact absurd (Option.some.inj heq) hc
    · exact pure _ _

theorem hasItem_end (first : Bool) (hb : Blank bs) :
    Reads (Read.hasItem first) (bs ++ ']' :: rest) false (']' :: rest) :=
  (start_cons hb rfl).bind (pure _ _)

theorem hasKey (first : Bool) (hb : Blank bs) (key : String) :
    Reads (Read.hasKey first) ((if first then [] else [',']) ++ (bs ++ (quote key ++ rest))) true
      (quote key ++ rest) := by
  cases first with
  | true => exact (start_cons hb rfl).bind (pure _ _)
  | false =>
    exact (start_here rfl _).bind
      ((advance ',' _).bind ((start_cons hb rfl).bind (pure _ _)))

theorem hasKey_end (first : Bool) (hb : Blank bs) :
    Reads (Read.hasKey first) (bs ++ '}' :: rest) false ('}' :: rest) :=
  (start_cons hb rfl).bind (pure _ _)

end Loops

theorem closeArray (rest : List Char) : Reads Read.closeArray (']' :: rest) () rest :=
  (start_here rfl _).bind (advance ']' rest)

theorem closeObject (rest : List Char) : Reads Read.closeObject ('}' :: rest) () rest :=
  (start_here rfl _).bind (advance '}' rest)

theorem bracketed {close : Read Unit} {fallback : Cursor → Cursor} {before between after : List Char}
    {x : α} (c : Char) (hp : Reads p before x between) (hc : Reads close between () after) :
    Reads (Read.bracketed p close fallback) (c :: before) x after := by
  intro offset
  obtain ⟨offset', h⟩ := hp (offset + c.utf8Size)
  obtain ⟨offset'', h'⟩ := (hc.bind (f := fun _ => Pure.pure x) (pure x after)) offset'
  refine ⟨offset'', ?_⟩
  unfold Read.bracketed
  have hadv : Cursor.advance ⟨c :: before, offset⟩ = ⟨before, offset + c.utf8Size⟩ := rfl
  rw [hadv, h]
  exact h'

theorem enclosed {close : Read Unit} {fallback : Cursor → Cursor} {level : Nat}
    {opening closing : Char} {ts : List (List Char)} {x : α}
    (hc : ∀ rest, Reads close (closing :: rest) () rest)
    (h : ∀ {bs rest}, Blank bs →
      Reads p (l.inside true (level + 1) ts ++ (bs ++ closing :: rest)) x (closing :: rest))
    (rest : List Char) :
    Reads (Read.bracketed p close fallback) (l.enclose level opening closing ts ++ rest) x rest := by
  obtain ⟨bs, hb, he⟩ := l.enclose_eq level opening closing ts
  rw [he]
  simp only [List.cons_append, List.append_assoc, List.nil_append]
  exact bracketed opening (h hb) (hc rest)

section Loops

variable {ts : List (List Char)} {bs rest : List Char} {first : Bool} {n : Nat}

theorem lt_budget (level : Nat) (ts : List (List Char)) (bs rest : List Char) (c : Char) :
    ts.length < (l.inside true level ts ++ (bs ++ c :: rest)).length + 1 := by
  have := l.length_le_inside true level ts
  simp only [List.length_append, List.length_cons]
  omega

theorem itemsFrom {xs : List α} (level : Nat) (h : List.Forall₂ (Spells p) ts xs) (hb : Blank bs)
    (hn : ts.length < n) :
    Reads (Read.itemsFrom p n first) (l.inside first level ts ++ (bs ++ ']' :: rest)) xs
      (']' :: rest) := by
  induction h generalizing n first with
  | nil =>
    obtain ⟨m, rfl⟩ := Nat.exists_eq_add_one_of_ne_zero (Nat.ne_zero_of_lt hn)
    exact (hasItem_end first hb).bind (pure _ _)
  | @cons t x ts xs hx _ ih =>
    obtain ⟨m, rfl⟩ := Nat.exists_eq_add_one_of_ne_zero (Nat.ne_zero_of_lt hn)
    have hs := l.stops_inside level ts hb (.bracket rest)
    simp only [Layout.inside, List.append_assoc]
    exact (hasItem first (l.blank_gap level) hx.opens).bind
      ((hx.reads .nil hs).bind ((ih (by simpa using hn)).bind (pure _ _)))

theorem entriesFrom {es : List (String × α)} (level : Nat)
    (h : List.Forall₂ (SpellsEntry l p) ts es) (hb : Blank bs) (hn : ts.length < n) :
    Reads (Read.entriesFrom p n first) (l.inside first level ts ++ (bs ++ '}' :: rest)) es
      ('}' :: rest) := by
  induction h generalizing n first with
  | nil =>
    obtain ⟨m, rfl⟩ := Nat.exists_eq_add_one_of_ne_zero (Nat.ne_zero_of_lt hn)
    exact (hasKey_end first hb).bind (pure _ _)
  | @cons t e ts es he _ ih =>
    obtain ⟨m, rfl⟩ := Nat.exists_eq_add_one_of_ne_zero (Nat.ne_zero_of_lt hn)
    obtain ⟨t, rfl, hx⟩ := he
    have hs := l.stops_inside level ts hb (.brace rest)
    simp only [Layout.inside, Layout.entry, List.cons_append, List.append_assoc]
    exact (hasKey first (l.blank_gap level) e.1).bind ((quoted e.1 _).bind
      ((colon _).bind ((hx.reads l.blank_space hs).bind
        ((ih (by simpa using hn)).bind (pure _ _)))))

end Loops

theorem array {ts : List (List Char)} {xs : List α} (level : Nat)
    (h : List.Forall₂ (Spells p) ts xs) (rest : List Char) :
    Reads (Read.array p) (l.enclose level '[' ']' ts ++ rest) xs rest :=
  enclosed closeArray (fun hb => (budget _).bind (itemsFrom _ h hb (lt_budget _ _ _ _ _))) rest

theorem object {ts : List (List Char)} {es : List (String × α)} (level : Nat)
    (h : List.Forall₂ (SpellsEntry l p) ts es) (rest : List Char) :
    Reads (Read.object p) (l.enclose level '{' '}' ts ++ rest) es rest :=
  enclosed closeObject (fun hb => (budget _).bind (entriesFrom _ h hb (lt_budget _ _ _ _ _))) rest

end Reads

end WorkflowCheck.Json
