import WorkflowCheck.Proofs.Json.Reads

/-! A natural number of 64 bits is read back from its decimal digits, where nothing follows that
could go on with a number. -/

namespace WorkflowCheck.Json

/-- What does not go on with a number. -/
def Stops (rest : List Char) : Prop :=
  ∀ c ∈ rest.head?, c.isDigit = false ∧ c ≠ '.' ∧ c ≠ 'e' ∧ c ≠ 'E'

theorem isDigit_ne {c d : Char} (hc : c.isDigit = true) (hd : d.isDigit = false) : c ≠ d := by
  rintro rfl
  rw [hc] at hd
  contradiction

namespace Reads

open Number

theorem digitValue_eq {c : Char} (h : c.isDigit = true) : digitValue c = c.toNat - '0'.toNat := by
  simp [digitValue, Text.hexDigitValue, h]

theorem le_ofDigitChars (ds : List Char) (n : Nat) : n ≤ Nat.ofDigitChars 10 ds n := by
  rw [Nat.ofDigitChars_eq_ofDigitChars_zero]
  have : 1 * n ≤ 10 ^ ds.length * n := Nat.mul_le_mul_right n (Nat.pow_pos (by decide))
  omega

theorem gather_digits {limit : Nat} {ds rest : List Char} (hd : ∀ c ∈ ds, c.isDigit = true)
    (hr : ∀ c ∈ rest.head?, c.isDigit = false) {n : Nat} (h : Nat.ofDigitChars 10 ds n < limit) :
    gather limit n (ds ++ rest) = (Nat.ofDigitChars 10 ds n, ds.length) := by
  induction ds generalizing n with
  | nil =>
    cases rest with
    | nil => simp [gather]
    | cons c rest => simp [gather, hr c rfl]
  | cons d ds ih =>
    have hdig : d.isDigit = true := hd d List.mem_cons_self
    have hstep : n * 10 + digitValue d = 10 * n + (d.toNat - '0'.toNat) := by
      rw [digitValue_eq hdig, Nat.mul_comm]
    rw [Nat.ofDigitChars_cons, ← hstep] at h
    have hlt : n * 10 + digitValue d < limit := Nat.lt_of_le_of_lt (le_ofDigitChars ds _) h
    simp only [List.cons_append, gather, hdig, hlt, decide_true, Bool.and_self, if_true,
      ih (fun c hc => hd c (List.mem_cons_of_mem d hc)) h, List.length_cons]
    rw [Nat.ofDigitChars_cons, hstep]

theorem isDigit_of_mem {n : Nat} {c : Char} (h : c ∈ Nat.toDigits 10 n) : c.isDigit = true :=
  Nat.isDigit_of_mem_toDigits (by decide) (by decide) h

theorem exists_digit_cons (n : Nat) :
    ∃ c cs, Nat.toDigits 10 n = c :: cs ∧ c.isDigit = true := by
  obtain ⟨c, cs, he⟩ := List.exists_cons_of_ne_nil (Nat.toDigits_ne_nil (n := n) (b := 10))
  exact ⟨c, cs, he, isDigit_of_mem (he ▸ List.mem_cons_self)⟩

/-- Only zero has digits that begin with a zero. -/
theorem toDigits_eq_cons {n : Nat} (hn : n ≠ 0) :
    ∃ c cs, Nat.toDigits 10 n = c :: cs ∧ c ≠ '0' := by
  induction n using Nat.strongRecOn with
  | ind n ih =>
    by_cases h : n < 10
    · refine ⟨n.digitChar, [], Nat.toDigits_of_lt_base h, ?_⟩
      exact (by decide : ∀ m < 10, m ≠ 0 → m.digitChar ≠ '0') n h hn
    · obtain ⟨c, cs, he, hc⟩ := ih (n / 10) (by omega) (by omega)
      refine ⟨c, cs ++ [(n % 10).digitChar], ?_, hc⟩
      rw [Nat.toDigits_of_base_le (by decide) (by omega), he, List.cons_append]

theorem digits {limit n : Nat} (hn : n < limit) {rest : List Char} (hr : Stops rest) :
    Reads (Number.digits limit 0) (Nat.toDigits 10 n ++ rest) (n, (Nat.toDigits 10 n).length) rest := by
  have hg := gather_digits (fun c hc => isDigit_of_mem hc) (fun c hc => (hr c hc).1) (n := 0)
    (by rwa [Nat.ofDigitChars_ten_toDigits] : Nat.ofDigitChars 10 (Nat.toDigits 10 n) 0 < limit)
  rw [Nat.ofDigitChars_ten_toDigits] at hg
  refine get fun offset => ⟨offset + (Nat.toDigits 10 n).length, ?_⟩
  simp only [hg]
  have hdrop : (Nat.toDigits 10 n ++ rest).drop (Nat.toDigits 10 n).length = rest := by simp
  rw [hdrop]
  rfl

theorem atDigit {rest : List Char} (hr : Stops rest) : Reads Number.atDigit rest false rest := by
  have : rest.head?.any Char.isDigit = false := by
    cases rest with
    | nil => rfl
    | cons c rest => exact (hr c rfl).1
  exact (peek rest).bind (this ▸ pure _ rest)

theorem atExponent {rest : List Char} (hr : Stops rest) : Reads Number.atExponent rest false rest := by
  have : (rest.head?.any fun c => c == 'e' || c == 'E') = false := by
    cases rest with
    | nil => rfl
    | cons c rest =>
      have := hr c rfl
      simp [this]
  exact (peek rest).bind (this ▸ pure _ rest)

theorem afterInteger {rest : List Char} (hr : Stops rest) (n : Nat) :
    Reads (Number.afterInteger true n) rest (.natural n) rest := by
  have hdot : (rest.head? == some '.') = false := by
    cases rest with
    | nil => rfl
    | cons c rest => simpa using (hr c rfl).2.1
  unfold Number.afterInteger
  refine (peek rest).bind ?_
  simp only [hdot, Bool.false_eq_true, if_false]
  exact (atExponent hr).bind (pure _ rest)

theorem natural {n : Nat} (hn : n < naturalLimit) {rest : List Char} (hr : Stops rest) :
    Reads (Number.read true) (Nat.toDigits 10 n ++ rest) (.natural n) rest := by
  unfold Number.read
  by_cases hz : n = 0
  · subst hz
    rw [Nat.toDigits_zero]
    exact (peek _).bind ((advance '0' rest).bind ((atDigit hr).bind (afterInteger hr 0)))
  · obtain ⟨c, cs, he, hc⟩ := toDigits_eq_cons hz
    have hdigit : c.isDigit = true := isDigit_of_mem (he ▸ List.mem_cons_self)
    have hd := digits hn hr
    refine (peek _).bind ?_
    simp only [he, List.cons_append, List.head?_cons, hdigit, Bool.not_true,
      Bool.false_eq_true, if_false] at hd ⊢
    exact hd.bind ((atDigit hr).bind (afterInteger hr n))

theorem number {n : Nat} (hn : n < naturalLimit) {rest : List Char} (hr : Stops rest) :
    Reads readNumber (Nat.toDigits 10 n ++ rest) (.natural n) rest := by
  unfold readNumber
  refine (peek _).bind ?_
  obtain ⟨c, cs, he, hc⟩ := exists_digit_cons n
  have hminus : (some c == some '-') = false := by simpa using isDigit_ne hc rfl
  have hnatural := natural hn hr
  rw [he, List.cons_append] at hnatural ⊢
  simp only [List.head?_cons, hminus, Bool.false_eq_true, if_false]
  exact hnatural

end Reads

end WorkflowCheck.Json
