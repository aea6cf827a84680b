import Mathlib
import WorkflowCheck.Decimal.Shortest

/-! How far the shortest decimal of a double reaches. It is no greater than the power of ten that the
double stays below, so that the place of its leading digit is known. -/

namespace WorkflowCheck.Decimal.Double

/-- `digits * 10 ^ exponent` is at most `10 ^ k`. -/
def Within (k digits : Nat) (exponent : Int) : Prop :=
  digits * 10 ^ exponent.toNat ≤ 10 ^ k * 10 ^ (-exponent).toNat

variable {k digits m : Nat} {e exponent : Int}

theorem Within.dropZeros (h : Within k digits exponent) (hd : digits ≠ 0) :
    Within k (dropZeros digits exponent).1 (dropZeros digits exponent).2 ∧
      (dropZeros digits exponent).1 ≠ 0 := by
  induction digits, exponent using dropZeros.induct with
  | case1 digits exponent hzero ih =>
    have hdigits : digits / 10 * 10 = digits := by omega
    rw [Double.dropZeros, dif_pos hzero]
    refine ih ?_ (by omega)
    unfold Within at h ⊢
    by_cases hneg : exponent < 0
    · have hup : (exponent + 1).toNat = 0 := by omega
      have hold : exponent.toNat = 0 := by omega
      have hdown : (-exponent).toNat = (-(exponent + 1)).toNat + 1 := by omega
      rw [hold, hdown, ← hdigits, pow_succ, ← mul_assoc] at h
      rw [hup]
      omega
    · have hup : (exponent + 1).toNat = exponent.toNat + 1 := by omega
      have hdown : (-(exponent + 1)).toNat = (-exponent).toNat := by omega
      rw [hup, hdown, pow_succ', ← mul_assoc, hdigits]
      exact h
  | case2 digits exponent hlast =>
    rw [Double.dropZeros, dif_neg hlast]
    exact ⟨h, hd⟩

theorem roundDiv_le (num den : Nat) : roundDiv num den ≤ num / den + 1 := by
  unfold roundDiv
  dsimp only
  split
  · omega
  · split <;> omega

theorem div_le_roundDiv (num den : Nat) : num / den ≤ roundDiv num den := by
  unfold roundDiv
  dsimp only
  split
  · omega
  · split <;> omega

theorem readsBack_zero (hm : m ≠ 0) (grid : Int) : readsBack m e 0 grid = false := by
  have hlow : 0 < (roundingBounds m e).1 := by
    unfold roundingBounds
    dsimp only
    split <;> omega
  have hscaled : 0 < (roundingBounds m e).1 * 2 ^ (e - 2).toNat * 10 ^ (-grid).toNat := by positivity
  unfold readsBack
  simp only [Nat.pow_eq, Nat.zero_mul]
  split
  · simp
    omega
  · simp

theorem onGrid?_eq_some {grid : Int} {p : Nat × Int} (h : onGrid? m e grid = some p) (hm : m ≠ 0) :
    p.2 = grid ∧ p.1 ≠ 0 ∧ p.1 ≤ m * 2 ^ e.toNat * 10 ^ (-grid).toNat /
      (2 ^ (-e).toNat * 10 ^ grid.toNat) + 1 := by
  unfold onGrid? ratio at h
  simp only [Nat.pow_eq] at h
  generalize hnum : m * 2 ^ e.toNat * 10 ^ (-grid).toNat = num at h ⊢
  generalize hden : 2 ^ (-e).toNat * 10 ^ grid.toNat = den at h ⊢
  have hround := roundDiv_le num den
  have hround' := div_le_roundDiv num den
  have hpositive : readsBack m e (num / den) grid = true → num / den ≠ 0 := by
    intro hreads hz
    rw [hz, readsBack_zero hm] at hreads
    contradiction
  split at h
  · next hbelow _ =>
    have hne := hpositive hbelow
    cases h
    exact ⟨rfl, fun hz => hne (Nat.le_zero.mp (hround'.trans (Nat.le_of_eq hz))), hround⟩
  · next hbelow _ =>
    cases h
    exact ⟨rfl, hpositive hbelow, Nat.le_succ _⟩
  · cases h
    exact ⟨rfl, Nat.succ_ne_zero _, Nat.le_refl _⟩
  · contradiction

theorem within_onGrid {grid : Int} {p : Nat × Int} (h : onGrid? m e grid = some p) (hm : m ≠ 0)
    (hless : m * 2 ^ e.toNat < 10 ^ k * 2 ^ (-e).toNat) (hgrid : grid ≤ k) :
    Within k p.1 p.2 ∧ p.1 ≠ 0 := by
  obtain ⟨hexponent, hne, hle⟩ := onGrid?_eq_some h hm
  refine ⟨?_, hne⟩
  rw [hexponent, Within]
  by_cases hneg : grid < 0
  · have hup : grid.toNat = 0 := by omega
    rw [hup, pow_zero, mul_one] at hle ⊢
    have hlt : m * 2 ^ e.toNat * 10 ^ (-grid).toNat / 2 ^ (-e).toNat < 10 ^ k * 10 ^ (-grid).toNat := by
      rw [Nat.div_lt_iff_lt_mul (by positivity)]
      calc m * 2 ^ e.toNat * 10 ^ (-grid).toNat
          < 10 ^ k * 2 ^ (-e).toNat * 10 ^ (-grid).toNat :=
            Nat.mul_lt_mul_of_pos_right hless (by positivity)
        _ = 10 ^ k * 10 ^ (-grid).toNat * 2 ^ (-e).toNat := mul_right_comm _ _ _
    exact hle.trans hlt
  · have hdown : (-grid).toNat = 0 := by omega
    have hsplit : 10 ^ k = 10 ^ (k - grid.toNat) * 10 ^ grid.toNat :=
      (pow_sub_mul_pow 10 (by omega)).symm
    rw [hdown, pow_zero, mul_one] at hle ⊢
    have hlt : m * 2 ^ e.toNat / (2 ^ (-e).toNat * 10 ^ grid.toNat) < 10 ^ (k - grid.toNat) := by
      rw [Nat.div_lt_iff_lt_mul (by positivity)]
      calc m * 2 ^ e.toNat < 10 ^ k * 2 ^ (-e).toNat := hless
        _ = 10 ^ (k - grid.toNat) * (2 ^ (-e).toNat * 10 ^ grid.toNat) := by rw [hsplit]; ring
    rw [hsplit]
    exact Nat.mul_le_mul_right _ (by omega)

theorem decimalScale_le {num den : Nat} (h : num < 10 ^ k * den) : decimalScale num den ≤ k + 1 := by
  unfold decimalScale
  split
  · next hle =>
    have hden : 0 < den := by
      rcases Nat.eq_zero_or_pos den with rfl | hpos
      · simp at h
      · exact hpos
    have hk : 0 < k := by
      rcases Nat.eq_zero_or_pos k with rfl | hpos
      · rw [pow_zero, one_mul] at h
        omega
      · exact hpos
    have hlt : num / den < 10 ^ k := (Nat.div_lt_iff_lt_mul hden).mpr h
    have hlength : (Text.decimalDigits (num / den)).length ≤ k :=
      (Nat.length_toDigits_le_iff (by decide) hk).mpr hlt
    omega
  · have hlength : 0 < (Text.decimalDigits (den / num)).length := Nat.length_toDigits_pos
    dsimp only
    split <;> omega

theorem within_shortestDecimal (hm : m ≠ 0) (hless : m * 2 ^ e.toNat < 10 ^ k * 2 ^ (-e).toNat) :
    Within k (shortestDecimal m e).1 (shortestDecimal m e).2 ∧ (shortestDecimal m e).1 ≠ 0 := by
  have hscale : decimalScale (ratio m e).1 (ratio m e).2 ≤ k + 1 := decimalScale_le hless
  unfold shortestDecimal
  dsimp only
  split
  · next found =>
    obtain ⟨n, -, hn⟩ := List.exists_of_findSome?_eq_some found
    obtain ⟨hwithin, hne⟩ := within_onGrid hn hm hless (by omega)
    exact hwithin.dropZeros hne
  · -- The exact value is below the same power of ten.
    have hup : (min e 0).toNat = 0 := by omega
    have hdown : (-min e 0).toNat = (-e).toNat := by omega
    constructor
    · rw [Within, hup, hdown, pow_zero, mul_one]
      have hten : (10 : Nat) ^ (-e).toNat = 2 ^ (-e).toNat * 5 ^ (-e).toNat :=
        mul_pow 2 5 (-e).toNat
      rw [hten, ← mul_assoc]
      exact Nat.mul_le_mul_right _ hless.le
    · simp only [Nat.pow_eq]
      positivity

theorem length_decimalDigits_le {n : Nat} (h : n ≤ 10 ^ k) : (Text.decimalDigits n).length ≤ k + 1 := by
  have hlt : n < 10 ^ (k + 1) :=
    Nat.lt_of_le_of_lt h (Nat.pow_lt_pow_right (by decide) (Nat.lt_succ_self k))
  exact (Nat.length_toDigits_le_iff (by decide) (Nat.succ_pos k)).mpr hlt

theorem leading_le (h : Within k digits exponent) (hd : digits ≠ 0) :
    exponent + (Text.decimalDigits digits).length - 1 ≤ k := by
  unfold Within at h
  by_cases hneg : exponent < 0
  · have hup : exponent.toNat = 0 := by omega
    rw [hup, pow_zero, mul_one, ← pow_add] at h
    have hlength := length_decimalDigits_le h
    omega
  · have hdown : (-exponent).toNat = 0 := by omega
    rw [hdown, pow_zero, mul_one] at h
    have hexponent : exponent.toNat ≤ k := by
      have hpow : 10 ^ exponent.toNat ≤ 10 ^ k :=
        Nat.le_trans (Nat.le_mul_of_pos_left _ (Nat.pos_of_ne_zero hd)) h
      exact (Nat.pow_le_pow_iff_right (by decide)).mp hpow
    rw [← pow_sub_mul_pow 10 hexponent] at h
    have hle : digits ≤ 10 ^ (k - exponent.toNat) := Nat.le_of_mul_le_mul_right h (by positivity)
    have hlength := length_decimalDigits_le hle
    omega

end WorkflowCheck.Decimal.Double
