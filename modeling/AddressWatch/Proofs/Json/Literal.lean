/-
  AddressWatch.Proofs.Json.Literal

  The parts of a JSON text that hold no others, read back from the way they are written. A string
  is read from its escaped characters whatever they are (`readString_flatMap_escapeChar`), an
  integer from its digits (`readNumberText_signedDecimal`), and nothing that is written is taken for
  a blank. No control character is written.
-/

import Mathlib.Data.List.Basic
import AddressWatch.Json.Decode
import AddressWatch.Json.Value
import AddressWatch.Proofs.Text.Numeral

namespace AddressWatch.Json

open Text

/-! ## Blanks -/

theorem skipBlanks_cons {c : Char} (hc : isBlank c = false) (rest : List Char) :
    skipBlanks (c :: rest) = c :: rest :=
  List.dropWhile_cons_of_neg (by rw [hc]; decide)

theorem isBlank_of_isDecimalDigit {c : Char} (hc : isDecimalDigit c = true) :
    isBlank c = false := by
  rw [Bool.eq_false_iff]
  intro hblank
  simp only [isBlank, Bool.or_eq_true, beq_iff_eq] at hblank
  rcases hblank with ((rfl | rfl) | rfl) | rfl <;> exact absurd hc (by decide)

/-! ## Strings -/

theorem readString_quote (rest : List Char) : readString ('"' :: rest) = .ok ([], rest) := by
  rw [readString, if_pos rfl]

theorem readString_of_escape {c : Char} {n : Nat} {escape rest more after : List Char}
    (hescape : readEscape escape = .ok (c, n)) (hdrop : escape.drop n = rest)
    (hrest : readString rest = .ok (more, after)) :
    readString ('\\' :: escape) = .ok (c :: more, after) := by
  rw [readString, if_neg (by decide), if_pos rfl]
  simp only [hescape, hdrop, hrest]

theorem readString_of_plain {c : Char} {rest more after : List Char} (hquote : c ≠ '"')
    (hslash : c ≠ '\\') (hcontrol : ¬ c.toNat < 0x20)
    (hrest : readString rest = .ok (more, after)) :
    readString (c :: rest) = .ok (c :: more, after) := by
  rw [readString, if_neg hquote, if_neg hslash, if_neg hcontrol]
  simp only [hrest]

/-- The four digits of a control character are read as its number. -/
theorem fourDigits_control {n : Nat} (hn : n < 0x20) (rest : List Char) :
    fourDigits ('0' :: '0' :: digitChar (n / 16) :: digitChar (n % 16) :: rest) = .ok n := by
  have hall : ∀ n < 0x20,
      fourDigits ['0', '0', digitChar (n / 16), digitChar (n % 16)] = .ok n := by decide
  exact hall n hn

theorem readEscape_control {c : Char} (hc : c.toNat < 0x20) (rest : List Char) :
    readEscape ('u' :: '0' :: '0' :: digitChar (c.toNat / 16) :: digitChar (c.toNat % 16) :: rest) =
      .ok (c, 5) := by
  have htrailing : isTrailingSurrogate c.toNat = false := by
    simp only [isTrailingSurrogate, Bool.and_eq_false_imp, decide_eq_true_eq,
      decide_eq_false_iff_not]
    omega
  have hleading : isLeadingSurrogate c.toNat = false := by
    simp only [isLeadingSurrogate, Bool.and_eq_false_imp, decide_eq_true_eq,
      decide_eq_false_iff_not]
    omega
  rw [readEscape, if_pos rfl, fourDigits_control hc]
  simp only [htrailing, hleading, Bool.false_eq_true, if_false, Char.ofNat_toNat]

/-- The three ways in which a character is written: by a letter, by its number, or as it is. -/
theorem escapeChar_cases (c : Char) :
    (∃ letter, escapeChar c = ['\\', letter] ∧ letter ≠ 'u' ∧ letterEscape? letter = some c) ∨
    (c.toNat < 0x20 ∧ escapeChar c =
      ['\\', 'u', '0', '0', digitChar (c.toNat / 16), digitChar (c.toNat % 16)]) ∨
    (escapeChar c = [c] ∧ c ≠ '"' ∧ c ≠ '\\' ∧ ¬ c.toNat < 0x20) := by
  rw [escapeChar]
  -- The seven characters that have a letter come first.
  iterate 7
    split
    · rename_i hc
      subst hc
      exact .inl ⟨_, rfl, by decide, rfl⟩
  split
  · rename_i hc
    exact .inr (.inl ⟨hc, rfl⟩)
  · rename_i hquote hslash _ _ _ _ _ hcontrol
    exact .inr (.inr ⟨rfl, hquote, hslash, hcontrol⟩)

/-- A character is read back from its escape. -/
theorem readString_escapeChar (c : Char) {rest more after : List Char}
    (hrest : readString rest = .ok (more, after)) :
    readString (escapeChar c ++ rest) = .ok (c :: more, after) := by
  rcases escapeChar_cases c with ⟨letter, hchar, hu, hletter⟩ | ⟨hc, hchar⟩ | ⟨hchar, hq, hs, hc⟩
  · have hescape : readEscape (letter :: rest) = .ok (c, 1) := by
      rw [readEscape, if_neg hu, hletter]
    rw [hchar]
    exact readString_of_escape hescape rfl hrest
  · rw [hchar]
    exact readString_of_escape (readEscape_control hc rest) rfl hrest
  · rw [hchar]
    exact readString_of_plain hq hs hc hrest

/-- Characters are read back from their escapes up to the closing quote. -/
theorem readString_flatMap_escapeChar (cs rest : List Char) :
    readString (cs.flatMap escapeChar ++ '"' :: rest) = .ok (cs, rest) := by
  induction cs with
  | nil => exact readString_quote rest
  | cons c cs ih =>
      rw [List.flatMap_cons, List.append_assoc]
      exact readString_escapeChar c ih

theorem stringChars_append (text : String) (rest : List Char) :
    stringChars text ++ rest = '"' :: (text.toList.flatMap escapeChar ++ '"' :: rest) := by
  simp [stringChars]

theorem le_of_letterEscape? {letter c : Char} (h : letterEscape? letter = some c) :
    0x20 ≤ letter.toNat := by
  rw [letterEscape?.eq_def] at h
  split at h
  case h_9 => cases h
  all_goals decide

/-- What stands for a character in a string is no control character, even if it is one. -/
theorem le_of_mem_escapeChar {c d : Char} (hd : d ∈ escapeChar c) : 0x20 ≤ d.toNat := by
  rcases escapeChar_cases c with ⟨letter, hchar, -, hletter⟩ | ⟨hc, hchar⟩ | ⟨hchar, -, -, hc⟩
  · rw [hchar, List.mem_pair] at hd
    rcases hd with rfl | rfl
    · decide
    · exact le_of_letterEscape? hletter
  · have hall : ∀ n < 0x20, (['\\', 'u', '0', '0', digitChar (n / 16), digitChar (n % 16)].all
        fun d => decide (0x20 ≤ d.toNat)) = true := by
      decide
    rw [hchar] at hd
    exact of_decide_eq_true (List.all_eq_true.mp (hall _ hc) d hd)
  · rw [hchar, List.mem_singleton] at hd
    rw [hd]
    omega

theorem le_of_mem_stringChars {text : String} {c : Char} (hc : c ∈ stringChars text) :
    0x20 ≤ c.toNat := by
  rw [stringChars, List.cons_append, List.mem_cons, List.mem_append, List.mem_singleton,
    List.mem_flatMap] at hc
  rcases hc with rfl | ⟨d, -, hd⟩ | rfl
  · decide
  · exact le_of_mem_escapeChar hd
  · decide

/-! ## Integers -/

theorem toList_signedDecimal (i : Int) :
    (signedDecimal i).toList = (if i < 0 then ['-'] else []) ++ numeral 10 i.natAbs := by
  rw [signedDecimal, decimal]
  split
  · rw [String.toList_append, String.toList_ofList, String.toList_ofList]
  · rw [String.toList_ofList, List.nil_append]

theorem le_of_mem_signedDecimal {i : Int} {c : Char} (hc : c ∈ (signedDecimal i).toList) :
    0x20 ≤ c.toNat := by
  rw [toList_signedDecimal, List.mem_append] at hc
  rcases hc with hc | hc
  · by_cases hi : i < 0
    · rw [if_pos hi, List.mem_singleton] at hc
      rw [hc]
      decide
    · rw [if_neg hi] at hc
      cases hc
  · have hdigit := isDecimalDigit_of_mem_numeral hc
    rw [isDecimalDigit, Bool.and_eq_true, decide_eq_true_eq] at hdigit
    omega

/-- What may stand behind a value in a document that is written without blanks. -/
inductive EndsValue : List Char → Prop
  | nil : EndsValue []
  | comma (rest : List Char) : EndsValue (',' :: rest)
  | bracket (rest : List Char) : EndsValue (']' :: rest)
  | brace (rest : List Char) : EndsValue ('}' :: rest)

theorem spanDigits_numeral (n : Nat) {rest : List Char} (hrest : EndsValue rest) :
    spanDigits (numeral 10 n ++ rest) = (numeral 10 n, rest) := by
  have hdigits : ∀ c ∈ numeral 10 n, isDecimalDigit c = true := fun c hc =>
    isDecimalDigit_of_mem_numeral hc
  rw [spanDigits, List.takeWhile_append_of_pos hdigits, List.dropWhile_append_of_pos hdigits]
  cases hrest <;> simp [isDecimalDigit]

theorem exists_numeral_eq_cons (n : Nat) :
    ∃ c digits, numeral 10 n = c :: digits ∧ isDecimalDigit c = true := by
  cases hdigits : numeral 10 n with
  | nil => exact absurd hdigits (numeral_ne_nil 10 n)
  | cons c digits =>
      exact ⟨c, digits, rfl, isDecimalDigit_of_mem_numeral (n := n) (by rw [hdigits]; simp)⟩

/-- An integer as it is written: no fraction and no exponent. -/
def integerText (i : Int) : NumberText := ⟨i < 0, numeral 10 i.natAbs, none, none⟩

/-- An integer is read from its text. -/
theorem readNumberText_signedDecimal (endCounts : Bool) (i : Int) {rest : List Char}
    (hrest : EndsValue rest) :
    readNumberText endCounts ((signedDecimal i).toList ++ rest) = .ok (integerText i, rest) := by
  obtain ⟨c, digits, hdigits, hc⟩ := exists_numeral_eq_cons i.natAbs
  have hminus : c ≠ '-' := by
    rintro rfl
    exact absurd hc (by decide)
  have hzero : ¬ ((numeral 10 i.natAbs).head? = some '0' ∧ 1 < (numeral 10 i.natAbs).length) := by
    rintro ⟨hhead, hlong⟩
    have hone := length_numeral_of_head?_zero (by omega) (by omega) hhead
    omega
  have hempty : (numeral 10 i.natAbs).isEmpty = false := by rw [hdigits]; rfl
  -- The sign is what stands in front of the digits.
  have hsign : (((signedDecimal i).toList ++ rest).head? == some '-') = decide (i < 0) := by
    rw [toList_signedDecimal, hdigits]
    by_cases hi : i < 0 <;> simp [hi, hminus]
  have hbehind : (if decide (i < 0) = true then ((signedDecimal i).toList ++ rest).tail
      else (signedDecimal i).toList ++ rest) = numeral 10 i.natAbs ++ rest := by
    rw [toList_signedDecimal]
    by_cases hi : i < 0 <;> simp [hi]
  rw [readNumberText]
  simp only [hsign, hbehind, spanDigits_numeral _ hrest, hempty, if_neg hzero]
  cases hrest <;> rfl

theorem digitValue?_of_decimal {c : Char} {d : Nat} (hd : digitValue? 10 c = some d) :
    c.toNat - 48 = d := by
  rw [digitValue?] at hd
  -- A letter is worth ten or more, so the character is a digit.
  obtain ⟨hvalue, hlt⟩ := Option.filter_eq_some_iff.mp hd
  rw [decide_eq_true_eq] at hlt
  split at hvalue
  · exact Option.some.inj hvalue
  split at hvalue
  · have := Option.some.inj hvalue
    omega
  split at hvalue
  · have := Option.some.inj hvalue
    omega
  · cases hvalue

/-- Digits that are read give no less than what was read before them. -/
theorem le_of_readDigits {base acc n : Nat} {cs : List Char} (hbase : 1 ≤ base)
    (hn : readDigits base acc cs = some n) : acc ≤ n := by
  induction cs generalizing acc with
  | nil => exact Nat.le_of_eq (Option.some.inj hn)
  | cons c cs ih =>
      obtain ⟨d, -, hrest⟩ := Option.bind_eq_some_iff.mp hn
      have hmore := ih hrest
      have hmul : acc ≤ acc * base := Nat.le_mul_of_pos_right acc hbase
      omega

/-- A significand takes up all digits of a number that fits. -/
theorem addDigits_of_readDigits {acc n : Nat} {cs : List Char}
    (hn : readDigits 10 acc cs = some n) (hfits : n ≤ maxSignificand) :
    addDigits acc cs = (n, 0) := by
  induction cs generalizing acc with
  | nil =>
      cases hn
      rfl
  | cons c cs ih =>
      obtain ⟨d, hd, hrest⟩ := Option.bind_eq_some_iff.mp hn
      have hle := le_of_readDigits (by omega) hrest
      rw [addDigits]
      simp only [digitValue?_of_decimal hd]
      rw [if_neg (by omega), ih hrest]

/-- A natural number that fits into 64 bits has its own value. -/
theorem value?_integerText {n : Nat} (hfits : n ≤ maxSignificand) :
    (integerText n).value? = some (.integer n) := by
  have hsign : ¬ ((n : Int) < 0) := by omega
  have hread : readDigits 10 0 (numeral 10 n) = some n :=
    readDigits_numeral (by omega) (by omega) n
  have hdigits := addDigits_of_readDigits hread hfits
  rw [NumberText.value?, integerText]
  simp [hsign, hdigits]

theorem decodeByte_signedDecimal (b : UInt8) {rest : List Char} (hrest : EndsValue rest) :
    decodeByte ((signedDecimal b.toNat).toList ++ rest) = .ok (b, rest) := by
  have hb := b.toNat_lt
  have hread := readNumberText_signedDecimal true (b.toNat : Int) hrest
  have hvalue := value?_integerText (n := b.toNat) (by rw [maxSignificand]; omega)
  obtain ⟨c, digits, hdigits, hc⟩ := exists_numeral_eq_cons b.toNat
  have htext : (signedDecimal b.toNat).toList = c :: digits := by
    rw [toList_signedDecimal, if_neg (by omega), Int.natAbs_natCast, List.nil_append, hdigits]
  rw [htext, List.cons_append] at hread ⊢
  have hnumber : readNumber (c :: (digits ++ rest)) = .ok (.integer b.toNat, rest) := by
    rw [readNumber, hread]
    simp only [bind, Except.bind, hvalue]
    rfl
  rw [decodeByte, skipBlanks_cons (isBlank_of_isDecimalDigit hc)]
  simp only [hc, Bool.or_true, if_true, hnumber]
  have hrange : (0 : Int) ≤ b.toNat ∧ (b.toNat : Int) ≤ 255 := by omega
  rw [if_pos hrange]
  simp

end AddressWatch.Json
