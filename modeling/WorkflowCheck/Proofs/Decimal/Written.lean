import WorkflowCheck.Proofs.Decimal.Shortest
import WorkflowCheck.Proofs.Json.Number

/-! What the shortest text of a double looks like: digits on either side of a point, or a digit and an
exponent that is no greater than the number allows. -/

namespace WorkflowCheck.Decimal.Double

/-- The two forms of a decimal: a point with digits on either side, or one digit, perhaps with others
behind a point, and an exponent. An exponent that raises is no greater than `k`. -/
inductive Written (k : Nat) : List Char → Prop where
  | point {c : Char} {whole fraction : List Char} (digits : ∀ d ∈ c :: whole, d.isDigit = true)
    (leading : c = '0' → whole = []) (short : (c :: whole).length ≤ 16)
    (further : ∀ d ∈ fraction, d.isDigit = true) (nonempty : fraction ≠ []) :
    Written k (c :: whole ++ '.' :: fraction)
  | power {c : Char} {fraction exponent : List Char} (digit : c.isDigit = true)
    (further : ∀ d ∈ fraction, d.isDigit = true) (negative : Bool)
    (digits : ∀ d ∈ exponent, d.isDigit = true) (nonempty : exponent ≠ [])
    (small : negative = false → Nat.ofDigitChars 10 exponent 0 ≤ k) :
    Written k (c :: (if fraction = [] then [] else '.' :: fraction) ++
      'e' :: (if negative then '-' else '+') :: exponent)

section

variable {k digits m : Nat} {e exponent : Int}

theorem isDigit_of_mem_zeros {n : Int} {c : Char} (h : c ∈ zeros n) : c.isDigit = true := by
  rw [List.eq_of_mem_replicate h]
  rfl

theorem written_positional {c : Char} {cs : List Char} (hd : ∀ d ∈ c :: cs, d.isDigit = true)
    (hc : c ≠ '0') (hplace : isPlace (exponent + (c :: cs).length - 1) = true) :
    Written k (positional (c :: cs) (exponent + (c :: cs).length - 1) exponent) := by
  have hbound : exponent + (c :: cs).length - 1 ≤ 15 := by
    rw [isPlace, Bool.and_eq_true, decide_eq_true_eq, decide_eq_true_eq] at hplace
    exact hplace.2
  unfold positional
  split
  · next hraised =>
    have hwhole : ∀ d ∈ c :: (cs ++ zeros exponent), d.isDigit = true := by
      intro d hmem
      rw [← List.cons_append, List.mem_append] at hmem
      exact hmem.elim (hd d) isDigit_of_mem_zeros
    have hlength : (c :: (cs ++ zeros exponent)).length ≤ 16 := by
      simp only [zeros, List.length_cons, List.length_append, List.length_replicate] at hbound ⊢
      omega
    have hwritten : Written k (c :: (cs ++ zeros exponent) ++ '.' :: ['0']) :=
      .point hwhole (fun h => absurd h hc) hlength (by simp) (by simp)
    simpa using hwritten
  · split
    · next hlower hlead =>
      obtain ⟨j, hj⟩ := Nat.exists_eq_add_one_of_ne_zero
        (n := (exponent + (c :: cs).length - 1 + 1).toNat) (by omega)
      have hshort : j < cs.length := by
        simp only [List.length_cons] at hj
        omega
      have htake : (c :: cs).take (j + 1) = c :: cs.take j := rfl
      have hdrop : (c :: cs).drop (j + 1) = cs.drop j := rfl
      rw [hj, htake, hdrop]
      refine .point ?_ (fun h => absurd h hc) ?_ ?_ ?_
      · exact fun d hmem => hd d (List.mem_of_mem_take (htake ▸ hmem))
      · simp only [List.length_cons, List.length_take] at hbound hj ⊢
        omega
      · exact fun d hmem => hd d (List.mem_cons_of_mem _ (List.mem_of_mem_drop hmem))
      · rw [ne_eq, List.drop_eq_nil_iff]
        omega
    · have hwritten : Written k
          (['0'] ++ '.' :: (zeros (-(exponent + (c :: cs).length - 1) - 1) ++ c :: cs)) :=
        .point (by simp) (fun _ => rfl) (by simp)
          (fun d hmem => (List.mem_append.mp hmem).elim isDigit_of_mem_zeros (hd d)) (by simp)
      simpa using hwritten

theorem written_scientific {c : Char} {cs : List Char} {leading : Int}
    (hd : ∀ d ∈ c :: cs, d.isDigit = true) (hk : leading ≤ k) :
    Written k (scientific (c :: cs) leading) := by
  have hdigit : c.isDigit = true := hd c List.mem_cons_self
  have hpower : ∀ d ∈ Text.decimalDigits leading.natAbs, d.isDigit = true :=
    fun d hmem => Nat.isDigit_of_mem_toDigits (by decide) (by decide) hmem
  have hvalue : Nat.ofDigitChars 10 (Text.decimalDigits leading.natAbs) 0 = leading.natAbs :=
    Nat.ofDigitChars_ten_toDigits
  have hfurther : ∀ d ∈ cs, d.isDigit = true := fun d hmem => hd d (List.mem_cons_of_mem _ hmem)
  have hsmall : decide (leading < 0) = false →
      Nat.ofDigitChars 10 (Text.decimalDigits leading.natAbs) 0 ≤ k := by
    rw [hvalue, decide_eq_false_iff_not]
    omega
  have hwritten := Written.power hdigit hfurther (decide (leading < 0)) hpower Nat.toDigits_ne_nil hsmall
  unfold scientific
  cases cs <;> simpa using hwritten

theorem written_layOut (hd : digits ≠ 0)
    (hk : exponent + (Text.decimalDigits digits).length - 1 ≤ k) : Written k (layOut digits exponent) := by
  obtain ⟨c, cs, hcons, hc⟩ := Json.Reads.toDigits_eq_cons hd
  have hdigits : ∀ d ∈ c :: cs, d.isDigit = true :=
    fun d hmem => Json.Reads.isDigit_of_mem (hcons.symm ▸ hmem)
  have heq : Text.decimalDigits digits = c :: cs := hcons
  unfold layOut
  rw [heq] at hk ⊢
  dsimp only
  split
  · next hplace => exact written_positional hdigits hc hplace
  · exact written_scientific hdigits hk

theorem exists_shortest?_eq (hless : m * 2 ^ e.toNat < 10 ^ k * 2 ^ (-e).toNat) :
    ∃ text, shortest? (.finite false m e) = some text ∧ Written k text.toList := by
  refine ⟨_, rfl, ?_⟩
  rw [String.toList_ofList]
  by_cases hm : m = 0
  · have hzero : Written k (['0'] ++ '.' :: ['0']) :=
      .point (by simp) (fun _ => rfl) (by simp) (by simp) (by simp)
    simpa [sign, hm] using hzero
  · obtain ⟨hwithin, hne⟩ := within_shortestDecimal hm hless
    have hwritten := written_layOut hne (leading_le hwithin hne)
    simpa [sign, hm] using hwritten

end

end WorkflowCheck.Decimal.Double
