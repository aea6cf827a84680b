import Mathlib.Algebra.GroupWithZero.Nat
import WorkflowCheck.Text.Blank
import WorkflowCheck.Text.Digit

/-! Decimal digits spell the number that they were made of, with zeros in front or without. -/

namespace WorkflowCheck.Text

theorem toNat_sub_lt_ten {c : Char} (h : c.isDigit = true) : c.toNat - '0'.toNat < 10 := by
  have hupper := (Char.isDigit_iff_toNat.mp h).2
  have hnine : '9'.toNat = '0'.toNat + 9 := rfl
  omega

theorem isSpace_of_isDigit {c : Char} (h : c.isDigit = true) : isSpace c = false := by
  have hdigits : ∀ n < 10, isSpace (Char.ofNat ('0'.toNat + n)) = false := by decide
  have hc := hdigits _ (toNat_sub_lt_ten h)
  rwa [Nat.add_sub_cancel' (Char.isDigit_iff_toNat.mp h).1, Char.ofNat_toNat] at hc

theorem digitValue?_of_isDigit {c : Char} (h : c.isDigit = true) :
    digitValue? 10 c = some (c.toNat - '0'.toNat) := by
  have hlt := toNat_sub_lt_ten h
  have hhex : isHexDigit c = true := by simp [isHexDigit, h]
  have hvalue : hexDigitValue c = c.toNat - '0'.toNat := by simp [hexDigitValue, h]
  simp only [digitValue?, hhex, hvalue, hlt, decide_true, Bool.and_self, if_true]

theorem foldlM_digits {ds : List Char} (hd : ∀ c ∈ ds, c.isDigit = true) (n : Nat) :
    ds.foldlM (fun n c => (digitValue? 10 c).map (n * 10 + ·)) n =
      some (Nat.ofDigitChars 10 ds n) := by
  induction ds generalizing n with
  | nil => rfl
  | cons d ds ih =>
    have hstep := digitValue?_of_isDigit (hd d List.mem_cons_self)
    rw [List.foldlM_cons, hstep, Nat.ofDigitChars_cons, Nat.mul_comm]
    exact ih (fun c hc => hd c (List.mem_cons_of_mem d hc)) _

theorem natural?_digits {ds : List Char} (hd : ∀ c ∈ ds, c.isDigit = true) (hne : ds ≠ []) :
    natural? 10 ds = some (Nat.ofDigitChars 10 ds 0) := by
  cases ds with
  | nil => exact absurd rfl hne
  | cons d ds => exact foldlM_digits hd 0

theorem ofDigitChars_lt {ds : List Char} (hd : ∀ c ∈ ds, c.isDigit = true) :
    Nat.ofDigitChars 10 ds 0 < 10 ^ ds.length := by
  induction ds with
  | nil => simp
  | cons d ds ih =>
    have hrest := ih fun c hc => hd c (List.mem_cons_of_mem d hc)
    have hvalue := toNat_sub_lt_ten (hd d List.mem_cons_self)
    rw [Nat.ofDigitChars_cons, Nat.ofDigitChars_eq_ofDigitChars_zero, List.length_cons, pow_succ]
    have hplace : 10 ^ ds.length * (10 * 0 + (d.toNat - '0'.toNat)) ≤ 10 ^ ds.length * 9 :=
      Nat.mul_le_mul_left _ (by omega)
    omega

section

variable {width n : Nat}

theorem isDigit_of_mem_padded {c : Char} (h : c ∈ padded width n) : c.isDigit = true := by
  rcases List.mem_append.mp h with h | h
  · rw [List.eq_of_mem_replicate h]
    rfl
  · exact Nat.isDigit_of_mem_toDigits (by decide) (by decide) h

theorem padded_ne_nil : padded width n ≠ [] := by simp [padded, decimalDigits]

theorem ofDigitChars_padded : Nat.ofDigitChars 10 (padded width n) 0 = n := by
  simp [padded, decimalDigits, Nat.ofDigitChars_append]

theorem length_padded (hw : 0 < width) (h : n < 10 ^ width) : (padded width n).length = width := by
  have hlength : (decimalDigits n).length ≤ width :=
    (Nat.length_toDigits_le_iff (by decide) hw).mpr h
  simp only [padded, List.length_append, List.length_replicate]
  omega

end

end WorkflowCheck.Text
