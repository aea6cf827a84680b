import WorkflowCheck.Proofs.Text.Digit
import WorkflowCheck.Timestamp.Reader

/-! A moment of the calendar is read back from its text. Each field has its digits and nothing that
could go on with them behind it, and no offset is left to be taken off. -/

namespace WorkflowCheck.Timestamp

structure IsDate (t : Timestamp) : Prop where
  month : 1 ≤ t.month ∧ t.month ≤ 12
  day : 1 ≤ t.day ∧ t.day ≤ daysIn t.year t.month

/-- A moment that the calendar has. Only the last second of a minute is continued by a leap second. -/
structure Valid (t : Timestamp) : Prop where
  year : isYear t.year = true
  date : t.IsDate
  second : t.second < daySeconds
  nanosecond : t.nanosecond < 1000000000 ∨ t.nanosecond < 2000000000 ∧ t.second % 60 = 59

section

variable {width n : Nat} {ds : List Char}

theorem number_digits (rest : List Char) (hd : ∀ c ∈ ds, c.isDigit = true) (hne : ds ≠ [])
    (hwidth : ds.length ≤ width)
    (hstop : ds.length = width ∨ ∀ c ∈ rest.head?, c.isDigit = false)
    (hlimit : Nat.ofDigitChars 10 ds 0 < wordLimit) :
    number width (ds ++ rest) = .ok (Nat.ofDigitChars 10 ds 0, rest) := by
  have htaken : ((ds ++ rest).take width).takeWhile Char.isDigit = ds := by
    rw [List.take_append, List.take_of_length_le hwidth, List.takeWhile_append_of_pos hd]
    have hnone : (rest.take (width - ds.length)).takeWhile Char.isDigit = [] := by
      rcases hstop with hfull | hstop
      · simp [hfull]
      · cases rest with
        | nil => simp
        | cons c rest =>
          rcases Nat.eq_zero_or_pos (width - ds.length) with hz | hpos
          · simp [hz]
          · obtain ⟨k, hk⟩ := Nat.exists_eq_add_one_of_ne_zero (Nat.pos_iff_ne_zero.mp hpos)
            simp [hk, hstop c rfl]
    rw [hnone, List.append_nil]
  unfold number
  simp only [htaken, Text.natural?_digits hd hne]
  split
  · exact absurd (List.append_eq_nil_iff.mp ‹_›).1 hne
  · contradiction
  · next heq _ =>
    cases heq
    rw [if_pos hlimit, List.drop_left]

theorem number_of_padded {k : Nat} (rest : List Char) (hwidth : (Text.padded k n).length ≤ width)
    (hstop : (Text.padded k n).length = width ∨ ∀ c ∈ rest.head?, c.isDigit = false)
    (hlimit : n < wordLimit) : number width (Text.padded k n ++ rest) = .ok (n, rest) := by
  have hdigits : ∀ c ∈ Text.padded k n, c.isDigit = true := fun c hc => Text.isDigit_of_mem_padded hc
  have hvalue : Nat.ofDigitChars 10 (Text.padded k n) 0 = n := Text.ofDigitChars_padded
  have hnumber := number_digits rest hdigits Text.padded_ne_nil hwidth hstop (hvalue.symm ▸ hlimit)
  rwa [hvalue] at hnumber

theorem number_padded (hw : 0 < width) (h : n < 10 ^ width) (hlimit : n < wordLimit)
    (rest : List Char) : number width (Text.padded width n ++ rest) = .ok (n, rest) := by
  have hlength := Text.length_padded hw h
  exact number_of_padded rest (Nat.le_of_eq hlength) (.inl hlength) hlimit

theorem exists_padded_eq (width n : Nat) :
    ∃ d more, Text.padded width n = d :: more ∧ d.isDigit = true := by
  have hne : Text.padded width n ≠ [] := Text.padded_ne_nil
  obtain ⟨d, more, hcons⟩ := List.exists_cons_of_ne_nil hne
  exact ⟨d, more, hcons, Text.isDigit_of_mem_padded (hcons ▸ List.mem_cons_self)⟩

theorem trimStart_padded (width n : Nat) (rest : List Char) :
    Text.trimStart (Text.padded width n ++ rest) = Text.padded width n ++ rest := by
  obtain ⟨d, more, hcons, hd⟩ := exists_padded_eq width n
  rw [hcons, List.cons_append, Text.trimStart, List.dropWhile_cons_of_neg]
  simp [Text.isSpace_of_isDigit hd]

theorem field_padded {low high : Nat} (hlow : low ≤ n) (hhigh : n ≤ high) (hn : n < 100)
    (rest : List Char) : field low high (Text.padded 2 n ++ rest) = .ok (n, rest) := by
  have hlimit : n < wordLimit := Nat.lt_trans hn (by decide)
  rw [field, trimStart_padded, number_padded (by decide) hn hlimit]
  simp [hlow, hhigh, bind, Except.bind]

end

theorem yearField_padded {n : Nat} (h : n ≤ 9999) (rest : List Char) :
    yearField (Text.padded 4 n ++ '-' :: rest) = .ok ((n : Int), '-' :: rest) := by
  have hword : wordLimit = 9223372036854775808 := rfl
  have hyear : -yearLimit ≤ (n : Int) ∧ (n : Int) < yearLimit := by
    have hlimit : yearLimit = 2147483648 := rfl
    omega
  have hnumber : number 4 (Text.padded 4 n ++ '-' :: rest) = .ok (n, '-' :: rest) :=
    number_padded (by decide) (by omega) (by omega) _
  obtain ⟨d, more, hcons, hd⟩ := exists_padded_eq 4 n
  rw [yearField, trimStart_padded]
  rw [hcons] at hnumber ⊢
  simp only [List.cons_append] at hnumber ⊢
  split
  · next heq => exact absurd hd (by cases heq; decide)
  · next heq => exact absurd hd (by cases heq; decide)
  · simp [hnumber, bind, Except.bind, Except.map, hyear]

theorem yearField_signed {n : Nat} (h : (n : Int) < yearLimit) (negative : Bool) (rest : List Char) :
    yearField ((if negative then '-' else '+') :: Text.padded 4 n ++ '-' :: rest) =
      .ok (if negative then -(n : Int) else n, '-' :: rest) := by
  have hlimit : yearLimit = 2147483648 := rfl
  have hword : wordLimit = 9223372036854775808 := rfl
  have hnumber : number (Text.padded 4 n ++ '-' :: rest).length (Text.padded 4 n ++ '-' :: rest) =
      .ok (n, '-' :: rest) :=
    number_of_padded _ (by simp) (.inr (by simp)) (by omega)
  have hyear : -yearLimit ≤ (n : Int) ∧ -(n : Int) < yearLimit := by omega
  have hlow : -yearLimit ≤ -(n : Int) := by omega
  cases negative with
  | true =>
    rw [yearField, List.cons_append, Text.trimStart, List.dropWhile_cons_of_neg (by decide)]
    simp only [if_true, hnumber, Except.map, bind, Except.bind]
    simp [hlow, hyear]
  | false =>
    rw [yearField, List.cons_append, Text.trimStart, List.dropWhile_cons_of_neg (by decide)]
    simp only [Bool.false_eq_true, if_false, hnumber, Except.map, bind, Except.bind]
    simp [h, hyear]

theorem yearField_yearText {year : Int} (h : isYear year = true) (rest : List Char) :
    yearField (yearText year ++ '-' :: rest) = .ok (year, '-' :: rest) := by
  have hbounds : -262143 ≤ year ∧ year ≤ 262142 := by
    rw [isYear, Bool.and_eq_true, decide_eq_true_eq, decide_eq_true_eq] at h
    exact h
  unfold yearText
  split
  · next hplain =>
    simp only [Bool.and_eq_true, decide_eq_true_eq] at hplain
    have hyear : (year.toNat : Int) = year := Int.toNat_of_nonneg hplain.1
    rw [yearField_padded (by omega), hyear]
  · have hlimit : (year.natAbs : Int) < yearLimit := by
      have hyears : yearLimit = 2147483648 := rfl
      omega
    have hyear : (if decide (year < 0) then -(year.natAbs : Int) else year.natAbs) = year := by
      by_cases hneg : year < 0
      · rw [if_pos (decide_eq_true hneg)]
        omega
      · rw [if_neg (by simp [hneg])]
        omega
    have hsigned := yearField_signed hlimit (decide (year < 0)) rest
    rw [hyear] at hsigned
    simpa only [decide_eq_true_eq] using hsigned

theorem separator_cons {c : Char} (h : Text.isSpace c = false) (rest : List Char) :
    separator c (c :: rest) = .ok rest := by
  rw [separator, Text.trimStart, List.dropWhile_cons_of_neg (by simp [h])]
  simp

/-- A fraction may be cut to any places: those that are missing count as zeros. -/
theorem fraction_padded {width n : Nat} (hpos : 0 < width) (hwidth : width ≤ 9) (hn : n < 10 ^ width) :
    fraction ('.' :: Text.padded width n ++ ['Z']) = .ok (n * 10 ^ (9 - width), ['Z']) := by
  have hlength := Text.length_padded hpos hn
  have hlimit : n < wordLimit := by
    have hword : wordLimit = 9223372036854775808 := rfl
    have hpow : 10 ^ width ≤ 10 ^ 9 := Nat.pow_le_pow_right (by decide) hwidth
    omega
  have hnumber : number 9 (Text.padded width n ++ ['Z']) = .ok (n, ['Z']) :=
    number_of_padded _ (by omega) (.inr (by simp)) hlimit
  rw [List.cons_append, fraction, hnumber]
  simp [bind, Except.bind, hlength]

theorem fraction_fractionText {n : Nat} (h : n < 1000000000) :
    fraction (fractionText n ++ ['Z']) = .ok (n, ['Z']) := by
  unfold fractionText
  split
  · next hz => simp [hz, fraction]
  · split
    · next hmilli =>
      rw [fraction_padded (by decide) (by decide) (by omega)]
      have hback : n / 1000000 * 10 ^ (9 - 3) = n := Nat.div_mul_cancel (Nat.dvd_of_mod_eq_zero hmilli)
      rw [hback]
    · split
      · next hmicro =>
        rw [fraction_padded (by decide) (by decide) (by omega)]
        have hback : n / 1000 * 10 ^ (9 - 6) = n := Nat.div_mul_cancel (Nat.dvd_of_mod_eq_zero hmicro)
        rw [hback]
      · rw [fraction_padded (by decide) (by decide) h]
        simp

theorem localTime_eq {t : Timestamp} (h : t.Valid) :
    localTime t.year t.month t.day (t.second / 3600) (t.second / 60 % 60)
      (t.second % 60 + t.nanosecond / 1000000000) (t.nanosecond % 1000000000) = t := by
  have hnano := h.nanosecond
  unfold localTime
  split
  · next hleap =>
    have hsecond : t.second / 3600 * 3600 + t.second / 60 % 60 * 60 + 59 = t.second := by omega
    have hnanosecond : 1000000000 + t.nanosecond % 1000000000 = t.nanosecond := by omega
    rw [hsecond, hnanosecond]
  · next hplain =>
    have hnanosecond : t.nanosecond < 1000000000 := by omega
    have hsecond : t.second / 3600 * 3600 + t.second / 60 % 60 * 60 +
        (t.second % 60 + t.nanosecond / 1000000000) = t.second := by omega
    rw [hsecond, Nat.mod_eq_of_lt hnanosecond]

theorem inUniversalTime_zero {t : Timestamp} (h : t.Valid) : inUniversalTime t 0 = .ok t := by
  have hearlier : t.earlier 0 = t := by
    have hday : (t.second : Int) < daySeconds := Int.ofNat_lt.mpr h.second
    have hnonneg : ¬(t.second : Int) < 0 := by omega
    simp [earlier, hday, hnonneg]
  have hday := h.date.day.2
  simp [inUniversalTime, h.year, hearlier, hday, daySeconds]

theorem parse_text {t : Timestamp} (h : t.Valid) : parse t.text = .ok t := by
  have hmonth := h.date.month
  have hday := h.date.day
  have hsecond : t.second < 86400 := h.second
  have hnano := h.nanosecond
  have hdays : daysIn t.year t.month ≤ 31 := by
    unfold daysIn
    split <;> (try split) <;> decide
  have hyear := yearField_yearText h.year
  have hmark : ∀ rest, dateTimeMark ('T' :: rest) = .ok rest := fun _ => rfl
  have hfraction := fraction_fractionText (n := t.nanosecond % 1000000000) (by omega)
  have hoffset : offset ['Z'] = .ok (0, []) := rfl
  have hend : Text.trimStart [] = [] := rfl
  rw [parse, text, String.toList_ofList]
  simp only [List.append_assoc, List.cons_append, hyear, bind, Except.bind,
    separator_cons (c := '-') rfl, separator_cons (c := ':') rfl, hmark,
    field_padded hmonth.1 hmonth.2 (by omega), field_padded hday.1 (by omega : t.day ≤ 31) (by omega),
    field_padded (Nat.zero_le (t.second / 3600)) (by omega : _ ≤ 23) (by omega),
    field_padded (Nat.zero_le (t.second / 60 % 60)) (by omega : _ ≤ 59) (by omega),
    field_padded (Nat.zero_le (t.second % 60 + t.nanosecond / 1000000000)) (by omega : _ ≤ 60) (by omega),
    hfraction, hoffset, hend, List.isEmpty_nil, Bool.not_true, Bool.false_eq_true, if_false,
    localTime_eq h, inUniversalTime_zero h]

theorem IsDate.nextDay {t : Timestamp} (h : t.IsDate) : t.nextDay.IsDate := by
  have hmonth := h.month
  have hday := h.day
  have hleast : ∀ year month, 1 ≤ daysIn year month := by
    intro year month
    unfold daysIn
    split <;> (try split) <;> decide
  unfold Timestamp.nextDay
  split
  · exact ⟨hmonth, by dsimp only; omega⟩
  · split
    · exact ⟨by dsimp only; omega, Nat.le_refl 1, hleast _ _⟩
    · exact ⟨⟨Nat.le_refl 1, (by decide : 1 ≤ 12)⟩, Nat.le_refl 1, hleast _ _⟩

/-- A clock tells moments of the calendar, as long as there are years for them. -/
theorem valid_sinceEpoch {seconds nanoseconds : Nat} (hn : nanoseconds < 1000000000)
    (hyear : isYear (sinceEpoch seconds nanoseconds).year = true) :
    (sinceEpoch seconds nanoseconds).Valid := by
  have hdate : ∀ days, (Nat.repeat Timestamp.nextDay days epoch).IsDate := by
    intro days
    induction days with
    | zero => exact ⟨by decide, by decide⟩
    | succ days ih => exact ih.nextDay
  have hday := hdate (seconds / daySeconds)
  exact ⟨hyear, ⟨hday.month, hday.day⟩, Nat.mod_lt _ (by decide), .inl hn⟩

end WorkflowCheck.Timestamp
