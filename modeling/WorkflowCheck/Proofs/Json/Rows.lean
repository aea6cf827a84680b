import Mathlib.Algebra.GroupWithZero.Nat
import WorkflowCheck.Proofs.Json.Roundtrip
import WorkflowCheck.Proofs.Text.Digit
import WorkflowCheck.Proofs.Text.Lines

/-! The lines of a value that is written with one item a line. Only the layout puts newlines into
the text, none of its lines is blank, and a string stands within one line whatever it holds. -/

namespace WorkflowCheck

namespace Value

mutual

/-- How many lines the layout takes for a value. -/
def rows : Value → Nat
  | .null | .boolean _ | .number _ | .string _ => 1
  | .array [] | .object [] => 1
  | .array (v :: rest) => (rowsOfItems (v :: rest)).sum + 2
  | .object (e :: rest) => (rowsOfEntries (e :: rest)).sum + 2

def rowsOfItems : List Value → List Nat
  | [] => []
  | v :: rest => v.rows :: rowsOfItems rest

def rowsOfEntries : List (String × Value) → List Nat
  | [] => []
  | (_, v) :: rest => v.rows :: rowsOfEntries rest

end

end Value

namespace Json

/-- Text that may stand in one line behind the blanks in front. -/
structure Row (r : List Char) : Prop where
  visible : ∃ c ∈ r.head?, Text.isSpace c = false
  printed : ∀ c ∈ r, 0x20 ≤ c.toNat

/-- Text that starts with a row, and has each further row in a line of its own behind some
blanks. -/
inductive Rows : Nat → List Char → Prop
  | last {r : List Char} (h : Row r) : Rows 1 r
  | atop {n : Nat} {r t : List Char} (h : Row r) (level : Nat) (ht : Rows n t) :
      Rows (n + 1) (r ++ (newline level ++ t))

variable {m n : Nat} {r s t : List Char}

namespace Row

instance : DecidablePred Row := fun r =>
  decidable_of_iff (r.head?.any (!Text.isSpace ·) = true ∧ r.all (0x20 ≤ ·.toNat) = true)
    ⟨fun h => ⟨by simpa [Option.any_eq_true] using h.1, by simpa using h.2⟩,
      fun h => ⟨by simpa [Option.any_eq_true] using h.visible, by simpa using h.printed⟩⟩

theorem ne_nil (h : Row r) : r ≠ [] := by
  rintro rfl
  obtain ⟨c, hc, -⟩ := h.visible
  simp at hc

theorem append (h : Row r) (ht : ∀ c ∈ t, 0x20 ≤ c.toNat) : Row (r ++ t) where
  visible := by
    obtain ⟨c, hc, hs⟩ := h.visible
    exact ⟨c, by simp [Option.mem_def.mp hc], hs⟩
  printed c hc := (List.mem_append.mp hc).elim (h.printed c) (ht c)

theorem newline_not_mem (h : Row r) : '\n' ∉ r := fun hn => absurd (h.printed _ hn) (by decide)

theorem exists_visible (h : Row r) (t : List Char) : ∃ c ∈ r ++ t, Text.isSpace c = false := by
  obtain ⟨c, hc, hs⟩ := h.visible
  exact ⟨c, List.mem_append_left t (List.mem_of_mem_head? hc), hs⟩

theorem splitLines (h : Row r) (rest : List Char) :
    Text.splitLines (r ++ '\n' :: rest) = (r ++ ['\n']) :: Text.splitLines rest :=
  Text.splitLines_append_of_not_mem h.newline_not_mem (Text.splitLines_newline rest)

end Row

namespace Rows

theorem ne_nil (h : Rows n t) : t ≠ [] := by
  cases h with
  | last h => exact h.ne_nil
  | atop h => exact List.append_ne_nil_of_left_ne_nil h.ne_nil _

theorem behind (hr : Row r) (ht : Rows n t) : Rows n (r ++ t) := by
  cases ht with
  | last h => exact .last (hr.append h.printed)
  | atop h level ht =>
    rw [← List.append_assoc]
    exact .atop (hr.append h.printed) level ht

theorem snoc (ht : Rows n t) {c : Char} (hc : 0x20 ≤ c.toNat) : Rows n (t ++ [c]) := by
  induction ht with
  | last h => exact .last (h.append (by simpa using hc))
  | atop h level _ ih =>
    rw [List.append_assoc, List.append_assoc]
    exact .atop h level ih

theorem append_newline (hs : Rows m s) (level : Nat) (ht : Rows n t) :
    Rows (m + n) (s ++ (newline level ++ t)) := by
  induction hs with
  | last h =>
    rw [Nat.add_comm]
    exact .atop h level ht
  | atop h level _ ih =>
    rw [List.append_assoc, List.append_assoc, Nat.add_right_comm]
    exact .atop h level ih

theorem inside {ns : List Nat} {ts : List (List Char)} (hr : Rows n r) (level : Nat)
    (hts : List.Forall₂ Rows ns ts) :
    Rows (n + ns.sum) (r ++ Layout.lines.inside false level ts) := by
  induction hts generalizing n r with
  | nil => simpa [Layout.inside] using hr
  | @cons m t ns ts ht _ ih =>
    have hcomma : Rows n (r ++ [',']) := hr.snoc (by decide)
    have h := ih (hcomma.append_newline level ht)
    simpa [Layout.inside, Layout.lines, Nat.add_assoc] using h

theorem enclose {opening closing : Char} (ho : Row [opening]) (hc : Row [closing]) (level : Nat)
    {ns : List Nat} {ts : List (List Char)} (hts : List.Forall₂ Rows (n :: ns) (t :: ts)) :
    Rows ((n :: ns).sum + 2) (Layout.lines.enclose level opening closing (t :: ts)) := by
  obtain ⟨ht, hts⟩ := List.forall₂_cons.mp hts
  have hfirst : Rows (1 + n) ([opening] ++ (newline (level + 1) ++ t)) :=
    (Rows.last ho).append_newline (level + 1) ht
  have h := (hfirst.inside (level + 1) hts).append_newline level (.last hc)
  have hsum : (n :: ns).sum + 2 = 1 + n + ns.sum + 1 := by
    rw [List.sum_cons]
    omega
  rw [hsum]
  simpa [Layout.enclose, Layout.inside, Layout.lines] using h

theorem eq_newline_of_lt (h : Rows n t) : ∀ c ∈ t, c.toNat < 0x20 → c = '\n' := by
  induction h with
  | last h =>
    intro c hc hlt
    exact absurd (h.printed c hc) (Nat.not_le.mpr hlt)
  | atop h level _ ih =>
    intro c hc hlt
    rcases List.mem_append.mp hc with hr | hc
    · exact absurd (h.printed c hr) (Nat.not_le.mpr hlt)
    rcases List.mem_append.mp hc with hn | ht
    · rcases List.mem_cons.mp hn with rfl | hblank
      · rfl
      · rw [List.eq_of_mem_replicate hblank] at hlt
        exact absurd hlt (by decide)
    · exact ih c ht hlt

theorem getLast?_ne (h : Rows n t) : t.getLast? ≠ some '\n' := by
  induction h with
  | last h =>
    intro hlast
    exact h.newline_not_mem (List.mem_of_getLast? hlast)
  | atop h level ht ih =>
    have hne : newline level ++ _ ≠ [] := List.append_ne_nil_of_right_ne_nil _ ht.ne_nil
    rwa [List.getLast?_append_of_ne_nil _ hne, List.getLast?_append_of_ne_nil _ ht.ne_nil]

theorem splitLines (h : Rows n t) :
    (Text.splitLines (t ++ ['\n'])).length = n ∧
      ∀ l ∈ Text.splitLines (t ++ ['\n']), ∃ c ∈ l, Text.isSpace c = false := by
  induction h with
  | last h =>
    rw [h.splitLines []]
    refine ⟨rfl, fun l hl => ?_⟩
    rw [List.mem_singleton.mp hl]
    exact h.exists_visible _
  | @atop n r t h level ht ih =>
    -- blanks in front of a line change neither the number of lines nor what is seen in them
    obtain ⟨l, ls, hl⟩ := Text.exists_splitLines (List.append_ne_nil_of_left_ne_nil ht.ne_nil ['\n'])
    have hblank : '\n' ∉ List.replicate (2 * level) ' ' := by simp
    have hrest := Text.splitLines_append_of_not_mem hblank hl
    have hlines : Text.splitLines (r ++ (newline level ++ t) ++ ['\n']) =
        (r ++ ['\n']) :: (List.replicate (2 * level) ' ' ++ l) :: ls := by
      rw [← hrest, ← h.splitLines]
      simp [newline]
    rw [hl, List.length_cons, List.forall_mem_cons] at ih
    obtain ⟨hlength, ⟨c, hc, hs⟩, hall⟩ := ih
    rw [hlines, List.forall_mem_cons, List.forall_mem_cons]
    refine ⟨congrArg (· + 1) hlength, h.exists_visible _, ⟨c, ?_, hs⟩, hall⟩
    exact List.mem_append_right _ hc

end Rows

theorem printed_of_escaped? {c d : Char} (h : Quoted.escaped? d = some c) : 0x20 ≤ d.toNat := by
  unfold Quoted.escaped? at h
  split at h <;> first | decide | cases h

theorem printed_hexDigit : ∀ n < 16, 0x20 ≤ (Text.hexDigit n).toNat := by decide

theorem printed_escapeChar (d : Char) : ∀ c ∈ escapeChar d, 0x20 ≤ c.toNat := by
  rcases Reads.escapeChar_cases d with ⟨he, hd, -⟩ | ⟨e, he, hd⟩ | ⟨he, hd⟩
  · simpa [he] using hd
  · simpa [he] using printed_of_escaped? hd
  · have hhigh : d.toNat / 16 < 16 := by omega
    have hlow : d.toNat % 16 < 16 := by omega
    simp [he, printed_hexDigit _ hhigh, printed_hexDigit _ hlow]

theorem row_quote (s : String) : Row (quote s) := by
  have hopen : Row ['"'] := by decide
  refine hopen.append fun c hc => ?_
  rcases List.mem_append.mp hc with hc | hc
  · obtain ⟨d, -, hd⟩ := List.mem_flatMap.mp hc
    exact printed_escapeChar d c hd
  · rw [List.mem_singleton.mp hc]
    decide

theorem row_digits (n : Nat) : Row (toString n).toList := by
  obtain ⟨d, ds, hcons, hd⟩ := Reads.exists_digit_cons n
  have hlist : (toString n).toList = d :: ds := Nat.toList_repr.trans hcons
  rw [hlist]
  constructor
  case visible => exact ⟨d, rfl, Text.isSpace_of_isDigit hd⟩
  case printed =>
    intro c hc
    have hdigit : c.isDigit = true := Reads.isDigit_of_mem (n := n) (hcons ▸ hc)
    have hle : '0'.toNat ≤ c.toNat := (Char.isDigit_iff_toNat.mp hdigit).1
    exact Nat.le_trans (by decide) hle

mutual

theorem rows_write (level : Nat) :
    ∀ v : Value, v.Exact → Rows v.rows (Layout.lines.write level v)
  | .null, _ => .last (r := ['n', 'u', 'l', 'l']) (by decide)
  | .boolean true, _ => .last (r := ['t', 'r', 'u', 'e']) (by decide)
  | .boolean false, _ => .last (r := ['f', 'a', 'l', 's', 'e']) (by decide)
  | .string s, _ => .last (row_quote s)
  | .number _, h => by
    obtain ⟨n, -, rfl⟩ := h
    exact .last (row_digits n)
  | .array [], _ => .last (r := ['[', ']']) (by decide)
  | .object [], _ => .last (r := ['{', '}']) (by decide)
  | .array (v :: rest), h =>
    .enclose (by decide) (by decide) level (rows_writeItems (level + 1) (v :: rest) h)
  | .object ((k, v) :: rest), h =>
    .enclose (by decide) (by decide) level (rows_writeEntries (level + 1) ((k, v) :: rest) h)

theorem rows_writeItems (level : Nat) : ∀ items : List Value, Value.ExactItems items →
    List.Forall₂ Rows (Value.rowsOfItems items) (Layout.lines.writeItems level items)
  | [], _ => .nil
  | v :: rest, h => .cons (rows_write level v h.1) (rows_writeItems level rest h.2)

theorem rows_writeEntries (level : Nat) : ∀ entries : List (String × Value),
    Value.ExactEntries entries →
    List.Forall₂ Rows (Value.rowsOfEntries entries) (Layout.lines.writeEntries level entries)
  | [], _ => .nil
  | (k, v) :: rest, h => by
    have hkey : Row (quote k ++ [':', ' ']) := (row_quote k).append (by simp)
    have hentry := (rows_write level v h.1).behind hkey
    rw [List.append_assoc] at hentry
    exact .cons hentry (rows_writeEntries level rest h.2)

end

end Json

end WorkflowCheck
