import WorkflowCheck.Report.Progress

/-! What the last line of a report says. Neither of its two phrases can be taken for the other: each
begins with a capital letter that nothing else in the line can bring in, whatever the colours and
the time. -/

namespace WorkflowCheck.Report

/-- A phrase stands in one of some prints to the first stream. -/
def Says (prints : List Print) (phrase : String) : Prop :=
  ∃ p ∈ prints, p.channel = .out ∧ phrase.toList <:+: p.text.toList

/-- No capital letter is in the text. -/
def Uncapitalized (text : String) : Prop := ∀ c ∈ text.toList, c.isUpper = false

theorem Uncapitalized.not_mem {text : String} (h : Uncapitalized text) {c : Char}
    (hc : c.isUpper = true) : c ∉ text.toList := fun hmem =>
  Bool.false_ne_true ((h c hmem).symm.trans hc)

theorem isUpper_of_isDigit {c : Char} (h : c.isDigit = true) : c.isUpper = false := by
  simp only [Char.isDigit, Bool.and_eq_true, decide_eq_true_eq] at h
  refine Bool.eq_false_iff.mpr fun hcapital => ?_
  have hrange := of_decide_eq_true hcapital
  exact absurd (UInt32.le_trans hrange.1 h.2) (by decide)

theorem isUpper_of_mem_toDigits {n : Nat} {c : Char} (h : c ∈ Nat.toDigits 10 n) :
    c.isUpper = false :=
  isUpper_of_isDigit (Nat.isDigit_of_mem_toDigits (by decide) (by decide) h)

theorem uncapitalized_append {a b : String} :
    Uncapitalized (a ++ b) ↔ Uncapitalized a ∧ Uncapitalized b := by
  simp [Uncapitalized, or_imp, forall_and]

theorem uncapitalized_toString (n : Nat) : Uncapitalized (toString n) := by
  intro c hc
  have hdigit : c ∈ Nat.toDigits 10 n := by simpa using hc
  exact isUpper_of_mem_toDigits hdigit

theorem uncapitalized_sequence {parameters : String} (h : Uncapitalized parameters) :
    Uncapitalized (Palette.sequence parameters) := by
  have hopen : Uncapitalized "\x1b[" := by simp [Uncapitalized]
  have hclose : Uncapitalized "m" := by simp [Uncapitalized]
  exact uncapitalized_append.mpr ⟨uncapitalized_append.mpr ⟨hopen, h⟩, hclose⟩

theorem uncapitalized_color (palette : Palette) (color : Color) :
    Uncapitalized (palette.color color) := by
  have hnumber : Uncapitalized ("38;5;" ++ toString color.number) :=
    uncapitalized_append.mpr ⟨by simp [Uncapitalized], uncapitalized_toString _⟩
  cases palette with
  | colorless => exact uncapitalized_sequence (by simp [Uncapitalized])
  | none => exact uncapitalized_sequence hnumber
  | full => exact uncapitalized_sequence hnumber

theorem uncapitalized_start (palette : Palette) (style : Style) :
    Uncapitalized (palette.start style) := by
  have hbold : Uncapitalized (Palette.sequence "1") :=
    uncapitalized_sequence (by simp [Uncapitalized])
  cases style with
  | bold => exact hbold
  | plain color => exact uncapitalized_color palette color
  | strong color => exact uncapitalized_append.mpr ⟨uncapitalized_color palette color, hbold⟩

theorem uncapitalized_finish (palette : Palette) (style : Style) :
    Uncapitalized (palette.finish style) := by
  cases palette <;> cases style <;> exact uncapitalized_sequence (by simp [Uncapitalized])

theorem infix_paint (palette : Palette) (style : Style) (text : String) :
    text.toList <:+: (palette.paint style text).toList := by
  cases palette <;> simp [Palette.paint]

theorem not_mem_paint {palette : Palette} {style : Style} {text : String} {c : Char}
    (hc : c.isUpper = true) (h : c ∉ text.toList) : c ∉ (palette.paint style text).toList := by
  have hstart := (uncapitalized_start palette style).not_mem hc
  have hfinish := (uncapitalized_finish palette style).not_mem hc
  cases palette with
  | none => exact h
  | full => simp [Palette.paint, hstart, h, hfinish]
  | colorless => simp [Palette.paint, hstart, h, hfinish]

theorem isUpper_of_mem_pointed {places n : Nat} {c : Char}
    (h : c ∈ Decimal.Double.pointed places n) : c.isUpper = false := by
  have hdigits : ∀ d ∈ Text.padded (places + 1) n, d.isUpper = false := by
    intro d hd
    rcases List.mem_append.mp hd with hzero | hd
    · rw [List.eq_of_mem_replicate hzero]
      rfl
    · exact isUpper_of_mem_toDigits hd
  rw [Decimal.Double.pointed] at h
  split at h
  · exact hdigits c h
  · rcases List.mem_append.mp h with h | h
    · exact hdigits c (List.mem_of_mem_take h)
    · rcases List.mem_cons.mp h with rfl | h
      · rfl
      · exact hdigits c (List.mem_of_mem_drop h)

theorem uncapitalized_fixed (places : Nat) {x : Decimal.Double} (h : x ≠ .notANumber) :
    Uncapitalized (x.fixed places) := by
  cases x with
  | finite negative m e =>
    intro c hc
    rw [Decimal.Double.fixed, String.toList_ofList, List.mem_append] at hc
    rcases hc with hsign | hpointed
    · cases negative <;> simp_all [Decimal.Double.sign]
    · exact isUpper_of_mem_pointed hpointed
  | infinite negative =>
    cases negative <;> simp [Uncapitalized, Decimal.Double.fixed, Decimal.Double.sign]
  | notANumber => exact absurd rfl h

theorem not_mem_fixed (places : Nat) (x : Decimal.Double) : 'F' ∉ (x.fixed places).toList := by
  by_cases h : x = .notANumber
  · rw [h]
    simp [Decimal.Double.fixed]
  · exact (uncapitalized_fixed places h).not_mem rfl

variable (palette : Palette) (elapsed : Decimal.Double)

theorem says_statusLine {phrase text : String} (h : phrase.toList <:+: text.toList)
    (style : Style) : Says [statusLine palette style text] phrase := by
  refine ⟨_, List.mem_singleton_self _, rfl, ?_⟩
  rw [statusLine, String.toList_append]
  exact (h.trans (infix_paint palette style text)).trans (List.infix_append [] _ _)

theorem not_says_statusLine {phrase text : String} {c : Char} (hphrase : c ∈ phrase.toList)
    (hc : c.isUpper = true) (htext : c ∉ text.toList) (style : Style) :
    ¬Says [statusLine palette style text] phrase := by
  have hend : Uncapitalized "\n" := by simp [Uncapitalized]
  have hline : c ∉ (statusLine palette style text).text.toList := by
    rw [statusLine, String.toList_append, List.mem_append, not_or]
    exact ⟨not_mem_paint hc htext, hend.not_mem hc⟩
  rintro ⟨p, hp, -, hoccurs⟩
  rw [List.mem_singleton.mp hp] at hoccurs
  exact hline (hoccurs.subset hphrase)

/-- One of the two phrases, and which one it is. -/
theorem says_verdict (passed : Bool) :
    (Says (verdict palette passed elapsed) "Passed all tests" ↔ passed = true) ∧
      (Says (verdict palette passed elapsed) "Failed some tests" ↔ passed = false) := by
  cases passed with
  | true =>
    have hstated : Says (verdict palette true elapsed) "Passed all tests" :=
      says_statusLine palette ⟨['\n'], (" in " ++ elapsed.fixed 3 ++ "s").toList, by simp⟩ _
    have hnot : ¬Says (verdict palette true elapsed) "Failed some tests" := by
      refine not_says_statusLine palette (c := 'F') (by decide) rfl ?_ _
      simp [not_mem_fixed]
    simp [hstated, hnot]
  | false =>
    have hstated : Says (verdict palette false elapsed) "Failed some tests" :=
      says_statusLine palette ⟨['\n'], [], by simp⟩ _
    have hnot : ¬Says (verdict palette false elapsed) "Passed all tests" :=
      not_says_statusLine palette (c := 'P') (by decide) rfl (by decide) _
    simp [hstated, hnot]

end WorkflowCheck.Report
