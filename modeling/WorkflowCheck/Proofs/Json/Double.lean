import WorkflowCheck.Proofs.Decimal.Double
import WorkflowCheck.Proofs.Decimal.Written
import WorkflowCheck.Proofs.Json.Record
import WorkflowCheck.Proofs.Json.Roundtrip
import WorkflowCheck.Proofs.Text.Digit

/-! The text of a double is read as a double, though not always as the same one: digits are passed over
where there are too many. Only a power of ten that is too large is refused, and none of a small number
is. -/

namespace WorkflowCheck

namespace Json

variable {ds rest : List Char}

/-- No digit comes next. -/
def NoDigit (rest : List Char) : Prop := ∀ c ∈ rest.head?, c.isDigit = false

theorem Stops.noDigit (h : Stops rest) : NoDigit rest := fun c hc => (h c hc).1

theorem NoDigit.cons {c : Char} (h : c.isDigit = false) (rest : List Char) : NoDigit (c :: rest) := by
  intro d hd
  cases hd
  exact h

namespace Reads

open Number

section Gather

variable {limit n : Nat}

theorem gather_append (hr : NoDigit rest) (limit n : Nat) (ds : List Char) :
    gather limit n (ds ++ rest) = gather limit n ds := by
  induction ds generalizing n with
  | nil =>
    cases rest with
    | nil => rfl
    | cons c rest => simp [gather, hr c rfl]
  | cons d ds ih => simp only [List.cons_append, gather, ih]

theorem gather_le (limit n : Nat) (ds : List Char) : (gather limit n ds).2 ≤ ds.length := by
  induction ds generalizing n with
  | nil => exact Nat.le_refl 0
  | cons d ds ih =>
    rw [gather]
    split
    · exact Nat.succ_le_succ (ih _)
    · exact Nat.zero_le _

theorem gather_lt (hn : n < limit) (ds : List Char) : (gather limit n ds).1 < limit := by
  induction ds generalizing n with
  | nil => exact hn
  | cons d ds ih =>
    rw [gather]
    split
    · next h =>
      rw [Bool.and_eq_true, decide_eq_true_eq] at h
      exact ih h.2
    · exact hn

theorem gather_all (hd : ∀ c ∈ ds, c.isDigit = true) (h : Nat.ofDigitChars 10 ds n < limit) :
    gather limit n ds = (Nat.ofDigitChars 10 ds n, ds.length) := by
  have hnone : ∀ c ∈ ([] : List Char).head?, c.isDigit = false := by simp
  have hgather := gather_digits hd hnone h
  rwa [List.append_nil] at hgather

/-- At least one digit is taken where there is room for any. -/
theorem gather_pos (hd : ∀ c ∈ ds, c.isDigit = true) (hne : ds ≠ []) (hroom : n * 10 + 9 < limit) :
    0 < (gather limit n ds).2 := by
  cases ds with
  | nil => exact absurd rfl hne
  | cons d ds =>
    have hdigit := hd d List.mem_cons_self
    have hvalue := Text.toNat_sub_lt_ten hdigit
    have hfits : n * 10 + digitValue d < limit := by
      rw [digitValue_eq hdigit]
      omega
    simp [gather, hdigit, hfits]

theorem gathered (hr : NoDigit rest) (limit n : Nat) (ds : List Char) :
    Reads (Number.digits limit n) (ds ++ rest) (gather limit n ds)
      (ds.drop (gather limit n ds).2 ++ rest) := by
  refine get fun offset => ⟨offset + (gather limit n ds).2, ?_⟩
  simp only [gather_append hr]
  rw [List.drop_append_of_le_length (gather_le limit n ds)]
  rfl

end Gather

theorem atDigit_end (hr : NoDigit rest) : Reads Number.atDigit rest false rest := by
  have hnone : rest.head?.any Char.isDigit = false := by
    cases rest with
    | nil => rfl
    | cons c rest => exact hr c rfl
  exact (peek rest).bind (hnone ▸ pure _ rest)

theorem atDigit_digit {d : Char} (hd : d.isDigit = true) (rest : List Char) :
    Reads Number.atDigit (d :: rest) true (d :: rest) := by
  have hsome : (d :: rest).head?.any Char.isDigit = true := hd
  exact (peek _).bind (hsome ▸ pure _ _)

theorem skipDigits (hd : ∀ c ∈ ds, c.isDigit = true) (hr : NoDigit rest) :
    Reads (Read.skipWhile Char.isDigit) (ds ++ rest) () rest := by
  have hdrop : (ds ++ rest).dropWhile Char.isDigit = rest := by
    rw [List.dropWhile_append_of_pos hd]
    cases rest with
    | nil => rfl
    | cons c rest => exact List.dropWhile_cons_of_neg (by simp [hr c rfl])
  intro offset
  refine ⟨offset + ((ds ++ rest).takeWhile Char.isDigit).length, ?_⟩
  show Except.ok ((), (⟨(ds ++ rest).dropWhile Char.isDigit, _⟩ : Cursor)) = _
  rw [hdrop]

end Reads

namespace Number

open Decimal (Double)

theorem exists_scale? {significand : Nat} (hn : significand < naturalLimit) {x : Int} (hx : x ≤ 20) :
    ∃ y, scale? significand x = some y := by
  unfold scale?
  dsimp only
  split
  · exact ⟨_, rfl⟩
  · split
    · exact ⟨_, rfl⟩
    · have hpower : ¬greatestPower < x.toNat := by
        have hgreatest : greatestPower = 308 := rfl
        omega
      have hplaces : x.toNat ≤ 20 := by omega
      obtain ⟨m, e, heq⟩ := Double.exists_timesPower_eq hn hplaces
      rw [if_neg hpower, heq]
      exact ⟨_, rfl⟩

theorem exists_double {significand : Nat} (hn : significand < naturalLimit) {x : Int} (hx : x ≤ 20) :
    ∃ y, ∀ rest, Reads (double true significand x) rest y rest := by
  obtain ⟨y, hy⟩ := exists_scale? hn hx
  refine ⟨y, fun rest => ?_⟩
  unfold double
  rw [hy]
  exact .pure y rest

theorem reads_exponentSign (negative : Bool) (rest : List Char) :
    Reads exponentSign ((if negative then '-' else '+') :: rest) (!negative) rest := by
  cases negative
  · exact (Reads.peek _).bind ((Reads.advance '+' _).bind (.pure _ _))
  · exact (Reads.peek _).bind ((Reads.advance '-' _).bind (.pure _ _))

section Exponent

variable {significand : Nat} {places : Int} {d : Char} {ds rest : List Char} {negative : Bool}
  {x : Decimal.Double}

theorem reads_exponent (hd : ∀ c ∈ d :: ds, c.isDigit = true) (hs : Stops rest)
    (hall : (gather exponentLimit 0 (d :: ds)).2 = (d :: ds).length)
    (hx : ∀ rest, Reads (double true significand
      (if !negative then places + (gather exponentLimit 0 (d :: ds)).1
        else places - (gather exponentLimit 0 (d :: ds)).1)) rest x rest) :
    Reads (exponent true significand places)
      ('e' :: (if negative then '-' else '+') :: (d :: ds ++ rest)) x rest := by
  have hdigit : d.isDigit = true := hd d List.mem_cons_self
  have htaken := Reads.gathered hs.noDigit exponentLimit 0 (d :: ds)
  rw [hall, List.drop_length, List.nil_append] at htaken
  refine (Reads.advance 'e' _).bind ((reads_exponentSign negative _).bind ((Reads.peek _).bind ?_))
  simp only [List.cons_append, List.head?_cons, hdigit, Bool.not_true, Bool.false_eq_true, if_false]
    at htaken ⊢
  exact htaken.bind ((Reads.atDigit_end hs.noDigit).bind (hx rest))

/-- Digits are left that make the exponent too large for any place. -/
theorem reads_exponent_vanishing (hd : ∀ c ∈ d :: ds, c.isDigit = true) (hs : Stops rest)
    (hleft : (gather exponentLimit 0 (d :: ds)).2 < (d :: ds).length) :
    Reads (exponent true significand places) ('e' :: '-' :: (d :: ds ++ rest))
      (signed true (.ofNat 0)) rest := by
  have hdigit : d.isDigit = true := hd d List.mem_cons_self
  have hne : (d :: ds).drop (gather exponentLimit 0 (d :: ds)).2 ≠ [] := by
    rw [ne_eq, List.drop_eq_nil_iff]
    omega
  obtain ⟨d', ds', hdrop⟩ := List.exists_cons_of_ne_nil hne
  have hd' : ∀ c ∈ d' :: ds', c.isDigit = true :=
    fun c hc => hd c (List.mem_of_mem_drop (hdrop ▸ hc))
  have hdigit' : d'.isDigit = true := hd' d' List.mem_cons_self
  have htaken := Reads.gathered hs.noDigit exponentLimit 0 (d :: ds)
  rw [hdrop] at htaken
  refine (Reads.advance 'e' _).bind ((reads_exponentSign true _).bind ((Reads.peek _).bind ?_))
  simp only [List.cons_append, List.head?_cons, hdigit, Bool.not_true, Bool.false_eq_true, if_false]
    at htaken ⊢
  refine htaken.bind ((Reads.atDigit_digit hdigit' _).bind ((Reads.advance d' _).bind ?_))
  rw [Bool.and_false, if_neg Bool.false_ne_true]
  exact (Reads.skipDigits (fun c hc => hd' c (List.mem_cons_of_mem _ hc)) hs.noDigit).bind (.pure _ _)

theorem exists_exponent (hn : significand < naturalLimit) (hplaces : places ≤ 0) (negative : Bool)
    (hd : ∀ c ∈ ds, c.isDigit = true) (hne : ds ≠ [])
    (hsmall : negative = false → Nat.ofDigitChars 10 ds 0 ≤ 20) :
    ∃ y, ∀ rest, Stops rest → Reads (exponent true significand places)
      ('e' :: (if negative then '-' else '+') :: (ds ++ rest)) y rest := by
  obtain ⟨d, more, rfl⟩ := List.exists_cons_of_ne_nil hne
  have hle := Reads.gather_le exponentLimit 0 (d :: more)
  cases negative with
  | true =>
    by_cases hall : (gather exponentLimit 0 (d :: more)).2 = (d :: more).length
    · have hlow : places - ((gather exponentLimit 0 (d :: more)).1 : Int) ≤ 20 := by omega
      obtain ⟨y, hy⟩ := exists_double hn hlow
      exact ⟨y, fun rest hs => reads_exponent hd hs hall hy⟩
    · have hleft : (gather exponentLimit 0 (d :: more)).2 < (d :: more).length := by omega
      exact ⟨_, fun rest hs => reads_exponent_vanishing hd hs hleft⟩
  | false =>
    have hvalue := hsmall rfl
    have hlimit : Nat.ofDigitChars 10 (d :: more) 0 < exponentLimit :=
      Nat.lt_of_le_of_lt hvalue (by decide)
    have hgather := Reads.gather_all hd hlimit
    have hraised : places + ((gather exponentLimit 0 (d :: more)).1 : Int) ≤ 20 := by
      rw [hgather]
      dsimp only
      omega
    obtain ⟨y, hy⟩ := exists_double hn hraised
    exact ⟨y, fun rest hs => reads_exponent hd hs (congrArg Prod.snd hgather) hy⟩

end Exponent

section Parts

variable {n : Nat} {places : Int} {ds after rest : List Char} {y : Decimal.Double} {x : Number}

theorem reads_afterDigits_end (hs : Stops rest) (h : Reads (double true n places) rest y rest) :
    Reads (afterDigits true n places) rest y rest :=
  (Reads.atExponent hs).bind h

theorem reads_afterDigits_exponent (h : Reads (exponent true n places) ('e' :: after) y rest) :
    Reads (afterDigits true n places) ('e' :: after) y rest := by
  have hexponent : Reads atExponent ('e' :: after) true ('e' :: after) :=
    (Reads.peek _).bind (.pure _ _)
  exact hexponent.bind h

theorem reads_fraction (hd : ∀ c ∈ ds, c.isDigit = true) (hne : ds ≠ [])
    (hroom : n * 10 + 9 < naturalLimit) (hr : NoDigit after)
    (h : Reads (afterDigits true (gather naturalLimit n ds).1 (places - (gather naturalLimit n ds).2))
      after y rest) :
    Reads (fraction true n places) ('.' :: (ds ++ after)) y rest := by
  have hpos := Reads.gather_pos hd hne hroom
  have htaken := Reads.gathered hr naturalLimit n ds
  refine (Reads.advance '.' _).bind (htaken.bind ?_)
  generalize hdrop : ds.drop (gather naturalLimit n ds).2 = left
  have hleft : ∀ c ∈ left, c.isDigit = true :=
    fun c hc => hd c (List.mem_of_mem_drop (hdrop ▸ hc))
  cases left with
  | nil =>
    refine (Reads.atDigit_end hr).bind ?_
    rw [if_neg Bool.false_ne_true, if_neg (Nat.pos_iff_ne_zero.mp hpos)]
    exact h
  | cons d left =>
    refine (Reads.atDigit_digit (hleft d List.mem_cons_self) _).bind ?_
    rw [if_pos rfl]
    exact (Reads.skipDigits hleft hr).bind h

theorem reads_afterInteger_point (h : Reads (fraction true n 0) ('.' :: after) y rest) :
    Reads (afterInteger true n) ('.' :: after) (.float y) rest :=
  (Reads.peek _).bind (h.bind (.pure _ _))

theorem reads_afterInteger_exponent (h : Reads (exponent true n 0) ('e' :: after) y rest) :
    Reads (afterInteger true n) ('e' :: after) (.float y) rest := by
  have hexponent : Reads atExponent ('e' :: after) true ('e' :: after) :=
    (Reads.peek _).bind (.pure _ _)
  exact (Reads.peek _).bind (hexponent.bind (h.bind (.pure _ _)))

theorem reads_integer {c : Char} (hd : ∀ d ∈ c :: ds, d.isDigit = true) (hleading : c = '0' → ds = [])
    (hlimit : Nat.ofDigitChars 10 (c :: ds) 0 < naturalLimit) (hr : NoDigit after)
    (h : Reads (afterInteger true (Nat.ofDigitChars 10 (c :: ds) 0)) after x rest) :
    Reads (read true) (c :: ds ++ after) x rest := by
  have hdigit : c.isDigit = true := hd c List.mem_cons_self
  unfold read
  by_cases hzero : c = '0'
  · subst hzero
    rw [hleading rfl] at h ⊢
    exact (Reads.peek _).bind ((Reads.advance '0' _).bind ((Reads.atDigit_end hr).bind h))
  · have htaken := Reads.gathered hr naturalLimit 0 (c :: ds)
    rw [Reads.gather_all hd hlimit, List.drop_length, List.nil_append] at htaken
    refine (Reads.peek _).bind ?_
    simp only [List.cons_append, List.head?_cons, hdigit, Bool.not_true, Bool.false_eq_true, if_false]
      at htaken ⊢
    exact htaken.bind ((Reads.atDigit_end hr).bind h)

end Parts

theorem exists_point {c : Char} {whole fraction : List Char} (hd : ∀ d ∈ c :: whole, d.isDigit = true)
    (hleading : c = '0' → whole = []) (hshort : (c :: whole).length ≤ 16)
    (hf : ∀ d ∈ fraction, d.isDigit = true) (hne : fraction ≠ []) :
    ∃ y, ∀ rest, Stops rest →
      Reads (read true) (c :: whole ++ ('.' :: (fraction ++ rest))) (.float y) rest := by
  generalize hvalue : Nat.ofDigitChars 10 (c :: whole) 0 = n
  have hsmall : n < 10 ^ 16 :=
    hvalue ▸ Nat.lt_of_lt_of_le (Text.ofDigitChars_lt hd) (Nat.pow_le_pow_right (by decide) hshort)
  have hnatural : naturalLimit = 18446744073709551616 := rfl
  have hroom : n * 10 + 9 < naturalLimit := by omega
  have hlimit : n < naturalLimit := by omega
  have hplaces : 0 - ((gather naturalLimit n fraction).2 : Int) ≤ 20 := by omega
  obtain ⟨y, hy⟩ := exists_double (Reads.gather_lt hlimit fraction) hplaces
  refine ⟨y, fun rest hs => reads_integer hd hleading (hvalue.symm ▸ hlimit) (.cons rfl _) ?_⟩
  rw [hvalue]
  exact reads_afterInteger_point
    (reads_fraction hf hne hroom hs.noDigit (reads_afterDigits_end hs (hy rest)))

theorem exists_power {c : Char} {fraction power : List Char} (hc : c.isDigit = true)
    (hf : ∀ d ∈ fraction, d.isDigit = true) (negative : Bool)
    (hd : ∀ d ∈ power, d.isDigit = true) (hne : power ≠ [])
    (hsmall : negative = false → Nat.ofDigitChars 10 power 0 ≤ 20) :
    ∃ y, ∀ rest, Stops rest → Reads (read true) ([c] ++ ((if fraction = [] then [] else '.' :: fraction) ++
      ('e' :: (if negative then '-' else '+') :: (power ++ rest)))) (.float y) rest := by
  have hdigit : ∀ d ∈ [c], d.isDigit = true := by simpa using hc
  generalize hvalue : Nat.ofDigitChars 10 [c] 0 = n
  have hten : n < 10 ^ 1 := hvalue ▸ Text.ofDigitChars_lt hdigit
  have hnatural : naturalLimit = 18446744073709551616 := rfl
  have hlimit : n < naturalLimit := by omega
  have hinteger : Nat.ofDigitChars 10 [c] 0 < naturalLimit := hvalue.symm ▸ hlimit
  have hzero : c = '0' → ([] : List Char) = [] := fun _ => rfl
  by_cases hnone : fraction = []
  · obtain ⟨y, hy⟩ := exists_exponent hlimit (Int.le_refl 0) negative hd hne hsmall
    refine ⟨y, fun rest hs => ?_⟩
    rw [if_pos hnone, List.nil_append]
    refine reads_integer hdigit hzero hinteger (.cons rfl _) ?_
    rw [hvalue]
    exact reads_afterInteger_exponent (hy rest hs)
  · have hroom : n * 10 + 9 < naturalLimit := by omega
    have hplaces : 0 - ((gather naturalLimit n fraction).2 : Int) ≤ 0 := by omega
    obtain ⟨y, hy⟩ :=
      exists_exponent (Reads.gather_lt hlimit fraction) hplaces negative hd hne hsmall
    refine ⟨y, fun rest hs => ?_⟩
    rw [if_neg hnone]
    refine reads_integer hdigit hzero hinteger (.cons rfl _) ?_
    rw [hvalue]
    exact reads_afterInteger_point
      (reads_fraction hf hnone hroom (.cons rfl _) (reads_afterDigits_exponent (hy rest hs)))

end Number

open Decimal (Double)

theorem exists_reads_written {t : List Char} (h : Double.Written 20 t) :
    ∃ c cs y, t = c :: cs ∧ c.isDigit = true ∧
      ∀ rest, Stops rest → Reads (Number.read true) (t ++ rest) (.float y) rest := by
  cases h with
  | @point c whole fraction digits leading short further nonempty =>
    obtain ⟨y, hy⟩ := Number.exists_point digits leading short further nonempty
    refine ⟨c, _, y, rfl, digits c List.mem_cons_self, fun rest hs => ?_⟩
    simpa using hy rest hs
  | @power c fraction exponent digit further negative digits nonempty small =>
    obtain ⟨y, hy⟩ := Number.exists_power digit further negative digits nonempty small
    refine ⟨c, _, y, rfl, digit, fun rest hs => ?_⟩
    simpa using hy rest hs

theorem exists_spells_double {t : List Char} (h : Double.Written 20 t) (depth : Nat) :
    ∃ y, Spells (Decoder.double depth) t y := by
  obtain ⟨c, cs, y, rfl, hc, hread⟩ := exists_reads_written h
  refine ⟨y, ⟨c, cs, rfl, isBlank_of_isDigit hc, isDigit_ne hc rfl⟩, ?_⟩
  intro bs rest hb hs
  have hminus : (some c == some '-') = false := by simpa using isDigit_ne hc rfl
  have hnumber : Reads readNumber (c :: cs ++ rest) (.float y) rest := by
    refine (Reads.peek _).bind ?_
    simp only [List.cons_append, List.head?_cons, hminus, Bool.false_eq_true, if_false]
    exact hread rest hs
  have htyped : Reads (Decoder.number "f64") (bs ++ (c :: cs ++ rest)) (.float y) rest := by
    refine (Reads.begin hb (isBlank_of_isDigit hc) _).bind ?_
    simp only [hc, Bool.or_true, if_true]
    exact hnumber
  exact htyped.bind (.pure y rest)

end Json

end WorkflowCheck
