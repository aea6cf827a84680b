import WorkflowCheck.Json.Decoder
import WorkflowCheck.Proofs.Json.Spelling

/-! What typed readers take: strings, lists, and records that are filled entry by entry. -/

namespace WorkflowCheck.Json

variable {α β : Type} {l : Layout}

theorem Reads.begin {bs : List Char} (hb : Blank bs) {c : Char} (hc : isBlank c = false)
    (rest : List Char) : Reads Decoder.begin (bs ++ c :: rest) c (c :: rest) :=
  (start_cons hb hc).bind (pure c _)

theorem Reads.begin_enclose {bs : List Char} (level : Nat) {opening closing : Char}
    (ts : List (List Char)) (hb : Blank bs) (ho : isBlank opening = false) (rest : List Char) :
    Reads Decoder.begin (bs ++ (l.enclose level opening closing ts ++ rest)) opening
      (l.enclose level opening closing ts ++ rest) :=
  (start_enclose level ts hb ho).bind (pure opening _)

namespace Spells

theorem bind {p : Read α} {f : α → Read β} {t : List Char} {x : α} {y : β} (h : Spells p t x)
    (hf : ∀ rest, Reads (f x) rest y rest) : Spells (p >>= f) t y where
  opens := h.opens
  reads hb hr := (h.reads hb hr).bind (hf _)

theorem text {expected : String} {convert : String → Except Problem α} {s : String} {x : α}
    (h : convert s = .ok x) (depth : Nat) :
    Spells (Decoder.text expected convert depth) (quote s) x where
  opens := ⟨'"', _, rfl, rfl, by decide⟩
  reads hb _ := by
    unfold Decoder.text
    refine (Reads.begin hb rfl _).bind ?_
    simp only [if_true]
    refine (Reads.quoted s _).bind ?_
    rw [h]
    exact .pure x _

theorem choice {known : List (String × α)} {s : String} {x : α} (h : known.lookup s = some x)
    (depth : Nat) : Spells (Decoder.choice known depth) (quote s) x where
  opens := ⟨'"', _, rfl, rfl, by decide⟩
  reads hb hr := by
    have hname : Decoder.name known s = .ok x := by simp only [Decoder.name, h]
    exact (Reads.begin hb rfl _).bind ((text hname depth).reads .nil hr)

theorem list {item : Decoder α} {n : Nat} {ts : List (List Char)} {xs : List α} (level : Nat)
    (h : List.Forall₂ (Spells (item n)) ts xs) :
    Spells (Decoder.list item (n + 1)) (l.enclose level '[' ']' ts) xs where
  opens := l.opens_enclose level ts rfl (by decide)
  reads hb _ := (Reads.begin_enclose level ts hb rfl _).bind (Reads.array level h _)

end Spells

namespace RecordShape

variable {σ : Type} {shape : RecordShape σ α} {depth : Nat}

/-- Entries, given by their keys and the texts of their values, take a record from one state to
another. No field is set twice. -/
inductive Fills (shape : RecordShape σ α) (depth : Nat) : σ → List (String × List Char) → σ → Prop where
  | nil (s : σ) : Fills shape depth s [] s
  | cons {s s₁ s₂ : σ} {key : String} {t : List Char} {rest : List (String × List Char)}
      {field : Field σ} (known : shape.fields.find? (·.key == key) = some field)
      (unset : field.isSet s = false) (spells : Spells (field.read s depth) t s₁)
      (fills : Fills shape depth s₁ rest s₂) : Fills shape depth s ((key, t) :: rest) s₂

def texts (l : Layout) (es : List (String × List Char)) : List (List Char) :=
  es.map fun e => l.entry e.1 e.2

theorem reads_fromEntries {s₁ s₂ : σ} {es : List (String × List Char)}
    (h : shape.Fills depth s₁ es s₂) (level : Nat) {bs rest : List Char} (hb : Blank bs)
    {n : Nat} (hn : es.length < n) (first : Bool) :
    Reads (shape.fromEntries depth n first s₁)
      (l.inside first level (texts l es) ++ (bs ++ '}' :: rest)) s₂ ('}' :: rest) := by
  induction h generalizing n first with
  | nil s =>
    obtain ⟨m, rfl⟩ := Nat.exists_eq_add_one_of_ne_zero (Nat.ne_zero_of_lt hn)
    exact (Reads.hasKey_end first hb).bind (.pure _ _)
  | @cons s s₁ s₂ key t es field known unset spells _ ih =>
    obtain ⟨m, rfl⟩ := Nat.exists_eq_add_one_of_ne_zero (Nat.ne_zero_of_lt hn)
    have hs := l.stops_inside level (texts l es) hb (.brace rest)
    simp only [texts, List.map_cons, Layout.inside, Layout.entry, List.cons_append,
      List.append_assoc, fromEntries]
    refine (Reads.hasKey first (l.blank_gap level) key).bind ((Reads.quoted key _).bind ?_)
    simp only [known, unset, Bool.false_eq_true, if_false]
    exact (Reads.colon _).bind ((spells.reads l.blank_space hs).bind
      (ih (by simpa using hn) false))

theorem spells_decode {s : σ} {x : α} {es : List (String × List Char)} {n : Nat}
    (h : shape.Fills n shape.empty es s) (hx : shape.finish s = some x) (level : Nat) :
    Spells (shape.decode (n + 1)) (l.enclose level '{' '}' (texts l es)) x where
  opens := l.opens_enclose level _ rfl (by decide)
  reads hb _ := by
    refine (Reads.begin_enclose level _ hb rfl _).bind (Reads.enclosed Reads.closeObject (fun hb => ?_) _)
    refine (Reads.budget _).bind ((reads_fromEntries h _ hb ?_ true).bind ?_)
    · simpa [texts] using Reads.lt_budget (l := l) (level + 1) (texts l es) _ _ '}'
    · simp only [complete, hx]
      exact .pure x _

end RecordShape

end WorkflowCheck.Json
