/-
  AddressWatch.Proofs.Text.Utf16

  Texts are read back from their code units of 16 bits, and code units that can be read are those of
  the text (`decodeUtf16?_eq_some_iff`). A character outside the surrogate range is one unit, and
  any other one a leading and a trailing surrogate.
-/

import AddressWatch.Text.Utf16

namespace AddressWatch.Text

theorem toNat_ofNat_uint16 {n : Nat} (hn : n < 0x10000) : (UInt16.ofNat n).toNat = n := by
  rw [UInt16.toNat_ofNat', Nat.mod_eq_of_lt hn]

/-- No character is a surrogate, and none lies behind the last plane. -/
theorem toNat_char_cases (c : Char) :
    c.toNat < 0xD800 ∨ 0xDFFF < c.toNat ∧ c.toNat < 0x110000 := c.valid

theorem toNat_ofNat_char {n : Nat} (hn : n < 0xD800 ∨ 0xDFFF < n ∧ n < 0x110000) :
    (Char.ofNat n).toNat = n := by
  rw [Char.ofNat, dif_pos hn]
  rfl

theorem isLeadingSurrogate_iff {n : Nat} :
    isLeadingSurrogate n = true ↔ 0xD800 ≤ n ∧ n ≤ 0xDBFF := by
  rw [isLeadingSurrogate, Bool.and_eq_true, decide_eq_true_eq, decide_eq_true_eq]

theorem isTrailingSurrogate_iff {n : Nat} :
    isTrailingSurrogate n = true ↔ 0xDC00 ≤ n ∧ n ≤ 0xDFFF := by
  rw [isTrailingSurrogate, Bool.and_eq_true, decide_eq_true_eq, decide_eq_true_eq]

/-! ## The units of one character -/

theorem utf16Char_of_lt {c : Char} (hc : c.toNat < 0x10000) :
    utf16Char c = [UInt16.ofNat c.toNat] := by
  rw [utf16Char]
  simp only [hc, if_true]

theorem utf16Char_of_le {c : Char} (hc : 0x10000 ≤ c.toNat) :
    utf16Char c = [UInt16.ofNat (0xD800 + (c.toNat - 0x10000) / 1024),
      UInt16.ofNat (0xDC00 + (c.toNat - 0x10000) % 1024)] := by
  rw [utf16Char]
  simp only [Nat.not_lt.mpr hc, if_false]

/-- A character is read back from its units, whatever follows them. -/
theorem decodeUtf16?_utf16Char (c : Char) (rest : List UInt16) :
    decodeUtf16? (utf16Char c ++ rest) = (decodeUtf16? rest).map (c :: ·) := by
  have hvalid := toNat_char_cases c
  by_cases hc : c.toNat < 0x10000
  · -- One unit, which is neither of the two kinds of surrogates.
    have hunit : (UInt16.ofNat c.toNat).toNat = c.toNat := toNat_ofNat_uint16 hc
    have hlead : ¬ isLeadingSurrogate c.toNat = true := by
      rw [isLeadingSurrogate_iff]
      omega
    have htrail : ¬ isTrailingSurrogate c.toNat = true := by
      rw [isTrailingSurrogate_iff]
      omega
    rw [utf16Char_of_lt hc, List.singleton_append, decodeUtf16?.eq_def]
    simp only [hunit]
    rw [if_neg hlead, if_neg htrail, Char.ofNat_toNat]
  · have hle : 0x10000 ≤ c.toNat := by omega
    have hquotient : (c.toNat - 0x10000) / 1024 < 1024 := by omega
    have hremainder : (c.toNat - 0x10000) % 1024 < 1024 := Nat.mod_lt _ (by omega)
    have hlead : (UInt16.ofNat (0xD800 + (c.toNat - 0x10000) / 1024)).toNat =
        0xD800 + (c.toNat - 0x10000) / 1024 := toNat_ofNat_uint16 (by omega)
    have htrail : (UInt16.ofNat (0xDC00 + (c.toNat - 0x10000) % 1024)).toNat =
        0xDC00 + (c.toNat - 0x10000) % 1024 := toNat_ofNat_uint16 (by omega)
    have hleading : isLeadingSurrogate (0xD800 + (c.toNat - 0x10000) / 1024) = true := by
      rw [isLeadingSurrogate_iff]
      omega
    have htrailing : isTrailingSurrogate (0xDC00 + (c.toNat - 0x10000) % 1024) = true := by
      rw [isTrailingSurrogate_iff]
      omega
    have hpair : surrogatePair (0xD800 + (c.toNat - 0x10000) / 1024)
        (0xDC00 + (c.toNat - 0x10000) % 1024) = c := by
      rw [surrogatePair]
      have hvalue : 0x10000 + (0xD800 + (c.toNat - 0x10000) / 1024 - 0xD800) * 1024 +
          (0xDC00 + (c.toNat - 0x10000) % 1024 - 0xDC00) = c.toNat := by omega
      rw [hvalue, Char.ofNat_toNat]
    rw [utf16Char_of_le hle, List.cons_append, List.singleton_append, decodeUtf16?.eq_def]
    simp only [hlead, htrail]
    rw [if_pos hleading, if_pos htrailing, hpair]

/-! ## The units of a text -/

theorem decodeUtf16?_utf16 (text : List Char) : decodeUtf16? (utf16 text) = some text := by
  induction text with
  | nil => rfl
  | cons c rest ih =>
      rw [utf16] at ih ⊢
      rw [List.flatMap_cons, decodeUtf16?_utf16Char, ih]
      rfl

/-- Units that can be read are the units of what is read. -/
theorem utf16_of_decodeUtf16? {units : List UInt16} {text : List Char}
    (h : decodeUtf16? units = some text) : utf16 text = units := by
  fun_induction decodeUtf16? units generalizing text with
  | case1 =>
      cases h
      rfl
  | case2 => cases h
  | case3 u hu v more hv ih =>
      obtain ⟨rest, hrest, rfl⟩ := Option.map_eq_some_iff.mp h
      rw [isLeadingSurrogate_iff] at hu
      rw [isTrailingSurrogate_iff] at hv
      have hvalue : (surrogatePair u.toNat v.toNat).toNat =
          0x10000 + (u.toNat - 0xD800) * 1024 + (v.toNat - 0xDC00) :=
        toNat_ofNat_char (by omega)
      have hlead : 0xD800 + ((surrogatePair u.toNat v.toNat).toNat - 0x10000) / 1024 = u.toNat := by
        omega
      have htrail : 0xDC00 + ((surrogatePair u.toNat v.toNat).toNat - 0x10000) % 1024 = v.toNat := by
        omega
      have hpair : utf16Char (surrogatePair u.toNat v.toNat) = [u, v] := by
        rw [utf16Char_of_le (by omega), hlead, htrail, UInt16.ofNat_toNat, UInt16.ofNat_toNat]
      rw [utf16, List.flatMap_cons, hpair, ← utf16, ih hrest]
      rfl
  | case4 => cases h
  | case5 => cases h
  | case6 u more hu hv ih =>
      obtain ⟨rest, hrest, rfl⟩ := Option.map_eq_some_iff.mp h
      rw [isLeadingSurrogate_iff] at hu
      rw [isTrailingSurrogate_iff] at hv
      have hlt : u.toNat < 0x10000 := u.toNat_lt
      have hvalue : (Char.ofNat u.toNat).toNat = u.toNat := toNat_ofNat_char (by omega)
      have hunit : utf16Char (Char.ofNat u.toNat) = [u] := by
        rw [utf16Char_of_lt (by omega), hvalue, UInt16.ofNat_toNat]
      rw [utf16, List.flatMap_cons, hunit, ← utf16, ih hrest]
      rfl

theorem decodeUtf16?_eq_some_iff {units : List UInt16} {text : List Char} :
    decodeUtf16? units = some text ↔ utf16 text = units := by
  constructor
  · exact utf16_of_decodeUtf16?
  · rintro rfl
    exact decodeUtf16?_utf16 text

/-- Different texts have different units. -/
theorem utf16_injective {text text' : List Char} (h : utf16 text = utf16 text') : text = text' := by
  have hread := decodeUtf16?_utf16 text
  rw [h, decodeUtf16?_utf16] at hread
  exact (Option.some.inj hread).symm

end AddressWatch.Text
