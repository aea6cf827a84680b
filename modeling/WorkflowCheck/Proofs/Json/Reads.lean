import WorkflowCheck.Json.Reader

/-! Successful reading, wherever in a text it happens: from what is unread before to what is
unread after. The offsets matter to faults alone and are left open. -/

namespace WorkflowCheck.Json

/-- Reading takes the text from `before` to `after` and gives `x`. -/
def Reads {α : Type} (p : Read α) (before : List Char) (x : α) (after : List Char) : Prop :=
  ∀ offset, ∃ offset', p ⟨before, offset⟩ = .ok (x, ⟨after, offset'⟩)

def Blank (bs : List Char) : Prop := ∀ c ∈ bs, isBlank c = true

namespace Reads

variable {α β : Type}

theorem pure (x : α) (before : List Char) : Reads (pure x) before x before :=
  fun offset => ⟨offset, rfl⟩

theorem bind {p : Read α} {f : α → Read β} {a b c : List Char} {x : α} {y : β}
    (hp : Reads p a x b) (hf : Reads (f x) b y c) : Reads (p >>= f) a y c := by
  intro offset
  obtain ⟨offset', h⟩ := hp offset
  obtain ⟨offset'', h'⟩ := hf offset'
  refine ⟨offset'', ?_⟩
  change (p ⟨a, offset⟩ >>= fun r => f r.1 r.2) = _
  rw [h]
  exact h'

theorem get {f : Cursor → Read β} {a b : List Char} {y : β}
    (h : ∀ offset, ∃ offset', f ⟨a, offset⟩ ⟨a, offset⟩ = .ok (y, ⟨b, offset'⟩)) :
    Reads (MonadState.get >>= f) a y b := h

theorem peek (before : List Char) : Reads Read.peek before before.head? before :=
  fun offset => ⟨offset, rfl⟩

theorem advance (c : Char) (rest : List Char) : Reads Read.advance (c :: rest) () rest :=
  fun offset => ⟨offset + c.utf8Size, rfl⟩

theorem budget (before : List Char) : Reads Read.budget before (before.length + 1) before :=
  fun offset => ⟨offset, rfl⟩

theorem dropBlanks_append {bs rest : List Char} (hb : Blank bs)
    (hr : ∀ c ∈ rest.head?, isBlank c = false) (offset : Nat) :
    ∃ offset', Cursor.dropBlanks (bs ++ rest) offset = ⟨rest, offset'⟩ := by
  induction bs generalizing offset with
  | nil =>
    cases rest with
    | nil => exact ⟨offset, rfl⟩
    | cons c rest => exact ⟨offset, by simp [Cursor.dropBlanks, hr c rfl]⟩
  | cons b bs ih =>
    simp only [List.cons_append, Cursor.dropBlanks, hb b List.mem_cons_self, if_true]
    exact ih (fun c hc => hb c (List.mem_cons_of_mem _ hc)) (offset + 1)

theorem start {bs rest : List Char} (hb : Blank bs)
    (hr : ∀ c ∈ rest.head?, isBlank c = false) : Reads Read.start (bs ++ rest) rest.head? rest := by
  intro offset
  obtain ⟨offset', h⟩ := dropBlanks_append hb hr offset
  exact ⟨offset', congrArg (fun c : Cursor => Except.ok (c.rest.head?, c)) h⟩

theorem start_cons {bs rest : List Char} (hb : Blank bs) {c : Char} (hc : isBlank c = false) :
    Reads Read.start (bs ++ c :: rest) (some c) (c :: rest) :=
  start hb (by simpa using hc)

theorem start_here {c : Char} (hc : isBlank c = false) (rest : List Char) :
    Reads Read.start (c :: rest) (some c) (c :: rest) := by
  have hb : Blank [] := by simp [Blank]
  exact start_cons hb hc

theorem colon (rest : List Char) : Reads Read.colon (':' :: rest) () rest :=
  (start_here rfl rest).bind (advance ':' rest)

theorem word (letters rest : List Char) : Reads (Read.word letters) (letters ++ rest) () rest := by
  induction letters with
  | nil => exact pure () rest
  | cons w letters ih =>
    refine (peek _).bind ?_
    simp only [List.cons_append, List.head?_cons, if_true]
    exact (advance w _).bind ih

end Reads

end WorkflowCheck.Json
