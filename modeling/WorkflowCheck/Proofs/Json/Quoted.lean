import WorkflowCheck.Json.Printer
import WorkflowCheck.Proofs.Json.Reads

/-! A quoted string is read back as it was: each character is escaped in one way, and no escape
holds the quote that ends the string. -/

namespace WorkflowCheck.Json.Reads

open Quoted

theorem character_plain {c : Char} (hctl : ¬ c.toNat < 0x20) (hq : c ≠ '"') (hb : c ≠ '\\')
    (rest : List Char) : Reads character (c :: rest) (some c) rest := by
  unfold character
  refine (peek _).bind ?_
  simp only [List.head?_cons, hctl, hq, hb, if_false]
  exact (advance c rest).bind (pure _ _)

theorem character_end (rest : List Char) : Reads character ('"' :: rest) none rest := by
  unfold character
  refine (peek _).bind ?_
  exact (advance '"' rest).bind (pure _ _)

theorem character_escape {rest after : List Char} {c : Char} (h : Reads escape rest c after) :
    Reads character ('\\' :: rest) (some c) after := by
  unfold character
  refine (peek _).bind ?_
  exact (advance '\\' rest).bind (h.bind (pure _ _))

theorem escape_letter {d c : Char} (hd : escaped? d = some c) (rest : List Char) :
    Reads escape (d :: rest) c rest := by
  unfold escaped? at hd
  split at hd <;> cases hd <;> exact (peek _).bind ((advance _ rest).bind (pure _ _))

theorem isHexDigit_hexDigit : ∀ n < 16, Text.isHexDigit (Text.hexDigit n) = true := by decide

theorem hexDigitValue_hexDigit : ∀ n < 16, Text.hexDigitValue (Text.hexDigit n) = n := by decide

theorem hexCode {ds : List Char} (hlen : ds.length = 4) (hall : ds.all Text.isHexDigit = true)
    (rest : List Char) :
    Reads hexCode (ds ++ rest) (ds.foldl (fun n d => n * 16 + Text.hexDigitValue d) 0) rest := by
  have htake : (ds ++ rest).take 4 = ds := by simp [← hlen]
  have hdrop : (ds ++ rest).drop 4 = rest := by simp [← hlen]
  refine get fun offset => ⟨offset + 4, ?_⟩
  simp only [htake, hdrop, hlen, hall, decide_true, Bool.and_self, if_true]
  rfl

theorem hexCode_byte {n : Nat} (hn : n < 256) (rest : List Char) :
    Reads Quoted.hexCode
      ('0' :: '0' :: Text.hexDigit (n / 16) :: Text.hexDigit (n % 16) :: rest) n rest := by
  have hi : n / 16 < 16 := by omega
  have hl : n % 16 < 16 := by omega
  have hall : ['0', '0', Text.hexDigit (n / 16), Text.hexDigit (n % 16)].all Text.isHexDigit = true := by
    simp only [List.all_cons, isHexDigit_hexDigit _ hi, isHexDigit_hexDigit _ hl]
    rfl
  have hfold : ['0', '0', Text.hexDigit (n / 16), Text.hexDigit (n % 16)].foldl
      (fun m d => m * 16 + Text.hexDigitValue d) 0 = n := by
    simp only [List.foldl_cons, List.foldl_nil, hexDigitValue_hexDigit _ hi,
      hexDigitValue_hexDigit _ hl]
    have hz : Text.hexDigitValue '0' = 0 := by decide
    omega
  have h := hexCode rfl hall rest
  rwa [hfold] at h

theorem escape_unicode {c : Char} (hc : c.toNat < 0x20) (rest : List Char) :
    Reads escape
      ('u' :: '0' :: '0' :: Text.hexDigit (c.toNat / 16) :: Text.hexDigit (c.toNat % 16) :: rest)
      c rest := by
  have ht : isTrailing c.toNat = false := by simp [isTrailing]; omega
  have hl : isLeading c.toNat = false := by simp [isLeading]; omega
  refine (peek _).bind ((advance 'u' _).bind ((hexCode_byte (by omega) rest).bind ?_))
  simp only [ht, hl, Bool.not_false, if_true, Bool.false_eq_true, if_false, Char.ofNat_toNat]
  exact pure c rest

/-- The three ways in which a character may stand in a quoted string. -/
theorem escapeChar_cases (c : Char) :
    escapeChar c = [c] ∧ ¬ c.toNat < 0x20 ∧ c ≠ '"' ∧ c ≠ '\\' ∨
      (∃ d, escapeChar c = ['\\', d] ∧ escaped? d = some c) ∨
      escapeChar c =
        ['\\', 'u', '0', '0', Text.hexDigit (c.toNat / 16), Text.hexDigit (c.toNat % 16)] ∧
        c.toNat < 0x20 := by
  unfold escapeChar
  grind [escaped?]

theorem character_escapeChar (c : Char) (rest : List Char) :
    Reads character (escapeChar c ++ rest) (some c) rest := by
  rcases escapeChar_cases c with ⟨he, hctl, hq, hb⟩ | ⟨d, he, hd⟩ | ⟨he, hctl⟩
  · rw [he]
    exact character_plain hctl hq hb rest
  · rw [he]
    exact character_escape (escape_letter hd rest)
  · rw [he]
    exact character_escape (escape_unicode hctl rest)

theorem characters (cs rest : List Char) {fuel : Nat} (h : cs.length < fuel) :
    Reads (Quoted.characters fuel) (cs.flatMap escapeChar ++ '"' :: rest) cs rest := by
  induction cs generalizing fuel with
  | nil =>
    obtain ⟨n, rfl⟩ := Nat.exists_eq_add_one_of_ne_zero (Nat.ne_zero_of_lt h)
    exact (character_end rest).bind (pure _ _)
  | cons c cs ih =>
    obtain ⟨n, rfl⟩ := Nat.exists_eq_add_one_of_ne_zero (Nat.ne_zero_of_lt h)
    rw [List.flatMap_cons, List.append_assoc]
    refine (character_escapeChar c _).bind ?_
    exact (ih (by simpa using h)).bind (pure _ _)

theorem escapeChar_ne_nil (c : Char) : escapeChar c ≠ [] := by
  rcases escapeChar_cases c with ⟨he, -⟩ | ⟨d, he, -⟩ | ⟨he, -⟩ <;> simp [he]

theorem length_le_flatMap_escapeChar (cs : List Char) :
    cs.length ≤ (cs.flatMap escapeChar).length := by
  induction cs with
  | nil => simp
  | cons c cs ih =>
    have := List.length_pos_iff.mpr (escapeChar_ne_nil c)
    simp only [List.flatMap_cons, List.length_append, List.length_cons]
    omega

theorem quoted (s : String) (rest : List Char) : Reads Quoted.read (quote s ++ rest) s rest := by
  unfold Quoted.read quote
  simp only [List.cons_append, List.append_assoc, List.nil_append]
  have hlen := length_le_flatMap_escapeChar s.toList
  refine (advance '"' _).bind ((budget _).bind ((characters s.toList rest ?_).bind ?_))
  · simp only [List.length_append, List.length_cons]
    omega
  · rw [String.ofList_toList]
    exact pure s rest

end WorkflowCheck.Json.Reads
