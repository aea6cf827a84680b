import Mathlib
import WorkflowCheck.Proofs.Decimal.Shortest

/-! Natural numbers and powers of ten that are no doubles themselves are still rounded to doubles, and
so are their products, as long as they are small. The bounds are rough. -/

namespace WorkflowCheck.Decimal.Double

theorem ratioLog2_lt {num k : Nat} (h : num < 2 ^ k) (hnum : num ≠ 0) (den : Nat) :
    ratioLog2 num den < k := by
  have hlog : num.log2 < k := (Nat.log2_lt hnum).mpr h
  unfold ratioLog2
  dsimp only
  split <;> omega

theorem le_ratioLog2_one (num : Nat) : -1 ≤ ratioLog2 num 1 := by
  have hlog : Nat.log2 1 = 0 := by decide
  unfold ratioLog2
  dsimp only
  rw [hlog]
  split <;> omega

theorem roundDiv_le_succ (num den : Nat) : roundDiv num den ≤ num + 1 :=
  (roundDiv_le num den).trans (Nat.succ_le_succ (Nat.div_le_self num den))

theorem exists_ofRatio_eq {num k : Nat} (h : num < 2 ^ k) (hk : k ≤ 1022) (negative : Bool) (den : Nat) :
    ∃ m e, ofRatio negative num den = .finite negative m e ∧ e ≤ max leastExponent (k - 53) + 1 ∧
      (den = 1 → m ≤ 2 ^ (k + 54)) := by
  unfold ofRatio
  by_cases hzero : num = 0
  · rw [if_pos hzero]
    exact ⟨0, leastExponent, rfl, by omega, fun _ => Nat.zero_le _⟩
  · rw [if_neg hzero]
    have hlog := ratioLog2_lt h hzero den
    dsimp only
    generalize he : max leastExponent (ratioLog2 num den - 52) = e
    generalize hm : roundDiv (num * Nat.pow 2 (-e).toNat) (den * Nat.pow 2 e.toNat) = m
    have hleast : leastExponent = -1074 := rfl
    have hgreatest : greatestExponent = 971 := rfl
    have hsize : den = 1 → m ≤ 2 ^ (k + 54) := by
      rintro rfl
      have hone := le_ratioLog2_one num
      have hshift : 2 ^ (-e).toNat ≤ 2 ^ 53 := Nat.pow_le_pow_right (by decide) (by omega)
      calc m ≤ num * 2 ^ (-e).toNat + 1 := hm ▸ roundDiv_le_succ _ _
        _ ≤ 2 ^ k * 2 ^ 53 + 2 ^ k * 2 ^ 53 :=
          Nat.add_le_add (Nat.mul_le_mul h.le hshift) (Nat.one_le_iff_ne_zero.mpr (by positivity))
        _ = 2 ^ (k + 54) := by ring
    by_cases hsmall : m < Nat.pow 2 precision
    · rw [if_pos hsmall]
      dsimp only
      rw [if_pos (by omega)]
      exact ⟨m, e, rfl, by omega, hsize⟩
    · rw [if_neg hsmall]
      dsimp only
      rw [if_pos (by omega)]
      exact ⟨m / 2, e + 1, rfl, by omega, fun hden => (Nat.div_le_self m 2).trans (hsize hden)⟩

theorem mul_lt_two_pow {m m' s a b c d : Nat} (hm : m ≤ 2 ^ a) (hm' : m' ≤ 2 ^ b) (hs : s ≤ c)
    (hd : a + b + c < d) : m * m' * 2 ^ s < 2 ^ d := by
  calc m * m' * 2 ^ s ≤ 2 ^ a * 2 ^ b * 2 ^ c :=
        Nat.mul_le_mul (Nat.mul_le_mul hm hm') (Nat.pow_le_pow_right (by decide) hs)
    _ = 2 ^ (a + b + c) := by rw [pow_add, pow_add]
    _ < 2 ^ d := Nat.pow_lt_pow_right (by decide) hd

theorem exists_timesPower_eq {n power : Nat} (hn : n < 2 ^ 64) (hpower : power ≤ 20) :
    ∃ m e, (ofNat n).timesPower power = .finite false m e := by
  have hten : 10 ^ power < 2 ^ 67 :=
    Nat.lt_of_le_of_lt (Nat.pow_le_pow_right (by decide) hpower) (by decide)
  obtain ⟨m, e, heq, he, hm⟩ := exists_ofRatio_eq hn (by decide) false 1
  obtain ⟨m', e', heq', he', hm'⟩ := exists_ofRatio_eq hten (by decide) false 1
  have hleast : leastExponent = -1074 := rfl
  have hshift : (e + e').toNat ≤ 27 := by omega
  have hproduct : m * m' * 2 ^ (e + e').toNat < 2 ^ 300 :=
    mul_lt_two_pow (hm rfl) (hm' rfl) hshift (by decide)
  obtain ⟨m'', e'', heq'', -⟩ :=
    exists_ofRatio_eq hproduct (by decide) false (ratio (m * m') (e + e')).2
  have hleft : ofNat n = .finite false m e := heq
  have hright : ofNat (Nat.pow 10 power) = .finite false m' e' := heq'
  refine ⟨m'', e'', ?_⟩
  unfold timesPower
  rw [hleft, hright]
  exact heq''

end WorkflowCheck.Decimal.Double
