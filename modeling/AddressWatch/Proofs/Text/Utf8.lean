/-
  AddressWatch.Proofs.Text.Utf8

  Characters are read back from their bytes. The first byte of a character tells how many follow it
  and what the second one may be (`leadByte?_utf8Char`), so nothing of what stands behind the
  character is looked at (`firstChar_utf8Char`), and a text that is written is what is read
  (`decodeLossy_utf8`, `decode?_utf8`). What is written are the bytes that the text has as a string
  (`utf8_toList`).
-/

import AddressWatch.Text.Utf8

namespace AddressWatch.Text

theorem toNat_ofNat_of_lt {n : Nat} (hn : n < 256) : (UInt8.ofNat n).toNat = n := by
  rw [UInt8.toNat_ofNat', Nat.mod_eq_of_lt hn]

/-! ## The bytes of one character -/

theorem isTail_ofNat (n : Nat) : isTail (UInt8.ofNat (0x80 + n % 64)) = true := by
  have hvalue : (UInt8.ofNat (0x80 + n % 64)).toNat = 0x80 + n % 64 :=
    toNat_ofNat_of_lt (by omega)
  rw [isTail, hvalue]
  simp only [Bool.and_eq_true, decide_eq_true_eq]
  omega

/-- All bytes of a character agree with it where the second one is in its range and continuation
bytes follow. -/
theorem agreeing_of_tails {low high : Nat} {b second : UInt8} {tails : List UInt8}
    (hlow : low ≤ second.toNat) (hhigh : second.toNat ≤ high)
    (htails : ∀ t ∈ tails, isTail t = true) (rest : List UInt8) :
    agreeing (tails.length + 2) low high (b :: second :: (tails ++ rest)) = tails.length + 2 := by
  have hwidth : ¬ (decide (tails.length + 2 < 2) || decide (second.toNat < low) ||
      decide (high < second.toNat)) = true := by
    simp only [Bool.or_eq_true, decide_eq_true_eq]
    omega
  have htake : (tails ++ rest).take (tails.length + 2 - 2) = tails := by
    rw [Nat.add_sub_cancel, List.take_left]
  have hall : tails.takeWhile isTail = tails := by
    rw [← List.append_nil tails, List.takeWhile_append_of_pos htails, List.takeWhile_nil]
  rw [agreeing, if_neg hwidth, htake, hall, Nat.add_comm]

/-- A character of several bytes, whatever stands behind it. -/
theorem firstChar_of_tails {low high : Nat} {b : UInt8} (second : UInt8) (tails : List UInt8)
    (hlead : leadByte? b = some (tails.length + 2, low, high))
    (hlow : low ≤ second.toNat) (hhigh : second.toNat ≤ high)
    (htails : ∀ t ∈ tails, isTail t = true) (rest : List UInt8) :
    firstChar b (second :: (tails ++ rest)) =
      (some (Char.ofNat (payload (b :: second :: tails))), tails.length + 2) := by
  have htake : (b :: second :: (tails ++ rest)).take (tails.length + 2) = b :: second :: tails := by
    rw [List.take_succ_cons, List.take_succ_cons, List.take_left]
  rw [firstChar, hlead]
  simp only
  rw [agreeing_of_tails hlow hhigh htails, if_neg (Nat.lt_irrefl _), htake,
    Nat.max_eq_left (by omega)]

/-- A character of one byte, whatever stands behind it. -/
theorem firstChar_of_ascii {b : UInt8} (hb : b.toNat ≤ 0x7F) (rest : List UInt8) :
    firstChar b rest = (some (Char.ofNat b.toNat), 1) := by
  have hlead : leadByte? b = some (1, 0, 0) := by
    rw [leadByte?]
    exact if_pos hb
  have hagreeing : agreeing 1 0 0 (b :: rest) = 1 := by
    cases rest <;> rfl
  rw [firstChar, hlead]
  simp only
  rw [hagreeing, if_neg (Nat.lt_irrefl _)]
  rfl

/-! ## Characters by their numbers of bytes -/

section Widths

variable {n : Nat}

theorem leadByte?_two (hlow : 0x80 ≤ n) (hhigh : n < 0x800) :
    leadByte? (UInt8.ofNat (0xC0 + n / 64)) = some (2, 0x80, 0xBF) := by
  have hb : (UInt8.ofNat (0xC0 + n / 64)).toNat = 0xC0 + n / 64 := toNat_ofNat_of_lt (by omega)
  rw [leadByte?, hb, if_neg (by omega), if_neg (by omega), if_pos (by omega)]

theorem payload_two {b last : UInt8} (hb : b.toNat = 0xC0 + n / 64)
    (hlast : last.toNat = 0x80 + n % 64) : payload [b, last] = n := by
  show (b.toNat - 0xC0) * 64 + (last.toNat - 0x80) = n
  omega

/-- The range of the second byte of three leaves room for every number that is no surrogate. -/
theorem leadByte?_three (hlow : 0x800 ≤ n) (hhigh : n < 0x10000)
    (hvalid : n < 0xD800 ∨ 0xDFFF < n) :
    ∃ low high, leadByte? (UInt8.ofNat (0xE0 + n / 4096)) = some (3, low, high) ∧
      low ≤ 0x80 + n / 64 % 64 ∧ 0x80 + n / 64 % 64 ≤ high := by
  have hb : (UInt8.ofNat (0xE0 + n / 4096)).toNat = 0xE0 + n / 4096 :=
    toNat_ofNat_of_lt (by omega)
  rw [leadByte?, hb, if_neg (by omega), if_neg (by omega), if_neg (by omega)]
  by_cases hfirst : n / 4096 = 0
  · rw [if_pos (by omega)]
    exact ⟨_, _, rfl, by omega, by omega⟩
  rw [if_neg (by omega)]
  by_cases hsurrogates : n / 4096 = 13
  · rw [if_pos (by omega)]
    exact ⟨_, _, rfl, by omega, by omega⟩
  rw [if_neg (by omega), if_pos (by omega)]
  exact ⟨_, _, rfl, by omega, by omega⟩

theorem payload_three {b second last : UInt8} (hb : b.toNat = 0xE0 + n / 4096)
    (hsecond : second.toNat = 0x80 + n / 64 % 64) (hlast : last.toNat = 0x80 + n % 64) :
    payload [b, second, last] = n := by
  show (b.toNat - 0xE0) * 4096 + (second.toNat - 0x80) * 64 + (last.toNat - 0x80) = n
  omega

/-- The range of the second byte of four leaves room for every number that a character can have. -/
theorem leadByte?_four (hlow : 0x10000 ≤ n) (hhigh : n < 0x110000) :
    ∃ low high, leadByte? (UInt8.ofNat (0xF0 + n / 262144)) = some (4, low, high) ∧
      low ≤ 0x80 + n / 4096 % 64 ∧ 0x80 + n / 4096 % 64 ≤ high := by
  have hb : (UInt8.ofNat (0xF0 + n / 262144)).toNat = 0xF0 + n / 262144 :=
    toNat_ofNat_of_lt (by omega)
  rw [leadByte?, hb, if_neg (by omega), if_neg (by omega), if_neg (by omega), if_neg (by omega),
    if_neg (by omega), if_neg (by omega)]
  by_cases hfirst : n / 262144 = 0
  · rw [if_pos (by omega)]
    exact ⟨_, _, rfl, by omega, by omega⟩
  rw [if_neg (by omega)]
  by_cases hlast : n / 262144 = 4
  · rw [if_neg (by omega), if_pos (by omega)]
    exact ⟨_, _, rfl, by omega, by omega⟩
  rw [if_pos (by omega)]
  exact ⟨_, _, rfl, by omega, by omega⟩

theorem payload_four {b second third last : UInt8} (hb : b.toNat = 0xF0 + n / 262144)
    (hsecond : second.toNat = 0x80 + n / 4096 % 64) (hthird : third.toNat = 0x80 + n / 64 % 64)
    (hlast : last.toNat = 0x80 + n % 64) : payload [b, second, third, last] = n := by
  show (b.toNat - 0xF0) * 262144 + (second.toNat - 0x80) * 4096 + (third.toNat - 0x80) * 64 +
    (last.toNat - 0x80) = n
  omega

end Widths

/-- A character is no surrogate. -/
theorem toNat_cases (c : Char) :
    c.toNat < 0xD800 ∨ (0xDFFF < c.toNat ∧ c.toNat < 0x110000) := c.valid

/-- A character is read from its bytes, whatever stands behind them. -/
theorem firstChar_utf8Char (c : Char) :
    ∃ b more, utf8Char c = b :: more ∧
      ∀ rest, firstChar b (more ++ rest) = (some c, more.length + 1) := by
  have hvalid := toNat_cases c
  have hself : Char.ofNat c.toNat = c := Char.ofNat_toNat c
  have hsecond : ∀ m, (UInt8.ofNat (0x80 + m % 64)).toNat = 0x80 + m % 64 :=
    fun m => toNat_ofNat_of_lt (by omega)
  -- One case for each number of bytes.
  by_cases hone : c.toNat < 0x80
  · have hb : (UInt8.ofNat c.toNat).toNat = c.toNat := toNat_ofNat_of_lt (by omega)
    refine ⟨UInt8.ofNat c.toNat, [], if_pos hone, fun rest => ?_⟩
    rw [List.nil_append, firstChar_of_ascii (by omega), hb, hself, List.length_nil]
  by_cases htwo : c.toNat < 0x800
  · have hlead := leadByte?_two (by omega) htwo
    refine ⟨_, [UInt8.ofNat (0x80 + c.toNat % 64)], (if_neg hone).trans (if_pos htwo),
      fun rest => ?_⟩
    have hfirst := firstChar_of_tails (UInt8.ofNat (0x80 + c.toNat % 64)) []
      hlead (by rw [hsecond]; omega) (by rw [hsecond]; omega) nofun rest
    rw [payload_two (toNat_ofNat_of_lt (by omega)) (hsecond _), hself] at hfirst
    exact hfirst
  by_cases hthree : c.toNat < 0x10000
  · obtain ⟨low, high, hlead, hlow, hhigh⟩ :=
      leadByte?_three (n := c.toNat) (by omega) hthree (by omega)
    refine ⟨_, [UInt8.ofNat (0x80 + c.toNat / 64 % 64), UInt8.ofNat (0x80 + c.toNat % 64)],
      (if_neg hone).trans ((if_neg htwo).trans (if_pos hthree)), fun rest => ?_⟩
    have hfirst := firstChar_of_tails (UInt8.ofNat (0x80 + c.toNat / 64 % 64))
      [UInt8.ofNat (0x80 + c.toNat % 64)] hlead (by rwa [hsecond]) (by rwa [hsecond])
      (List.forall_mem_singleton.mpr (isTail_ofNat _)) rest
    rw [payload_three (toNat_ofNat_of_lt (by omega)) (hsecond _) (hsecond _), hself] at hfirst
    exact hfirst
  · obtain ⟨low, high, hlead, hlow, hhigh⟩ := leadByte?_four (n := c.toNat) (by omega) (by omega)
    refine ⟨_, [UInt8.ofNat (0x80 + c.toNat / 4096 % 64), UInt8.ofNat (0x80 + c.toNat / 64 % 64),
        UInt8.ofNat (0x80 + c.toNat % 64)],
      (if_neg hone).trans ((if_neg htwo).trans (if_neg hthree)), fun rest => ?_⟩
    have hfirst := firstChar_of_tails (UInt8.ofNat (0x80 + c.toNat / 4096 % 64))
      [UInt8.ofNat (0x80 + c.toNat / 64 % 64), UInt8.ofNat (0x80 + c.toNat % 64)] hlead
      (by rwa [hsecond]) (by rwa [hsecond])
      (List.forall_mem_cons.mpr ⟨isTail_ofNat _, List.forall_mem_singleton.mpr (isTail_ofNat _)⟩)
      rest
    rw [payload_four (toNat_ofNat_of_lt (by omega)) (hsecond _) (hsecond _) (hsecond _), hself]
      at hfirst
    exact hfirst

/-! ## Texts -/

/-- The first character of a text is read from its bytes, and the others are behind it. -/
theorem exists_utf8_cons (c : Char) (cs : List Char) :
    ∃ b more, utf8 (c :: cs) = b :: more ∧ (firstChar b more).1 = some c ∧
      more.drop ((firstChar b more).2 - 1) = utf8 cs := by
  obtain ⟨b, more, hbytes, hfirst⟩ := firstChar_utf8Char c
  refine ⟨b, more ++ utf8 cs, ?_, ?_, ?_⟩
  · rw [utf8, List.flatMap_cons, hbytes]
    rfl
  · rw [hfirst]
  · rw [hfirst, Nat.add_sub_cancel, List.drop_left]

/-- A text is read from its bytes. -/
theorem decodeLossy_utf8 (cs : List Char) : decodeLossy (utf8 cs) = cs := by
  induction cs with
  | nil => rw [utf8, List.flatMap_nil, decodeLossy]
  | cons c rest ih =>
      obtain ⟨b, more, hbytes, hfirst, hdrop⟩ := exists_utf8_cons c rest
      rw [hbytes, decodeLossy, hfirst, hdrop, ih]
      rfl

/-- The bytes of a text are well formed. -/
theorem decode?_utf8 (cs : List Char) : decode? (utf8 cs) = some cs := by
  induction cs with
  | nil => rw [utf8, List.flatMap_nil, decode?]
  | cons c rest ih =>
      obtain ⟨b, more, hbytes, hfirst, hdrop⟩ := exists_utf8_cons c rest
      rw [hbytes, decode?, hfirst, hdrop, ih]
      rfl

/-! ## The bytes of a string -/

theorem utf8Char_eq_utf8EncodeChar (c : Char) : utf8Char c = String.utf8EncodeChar c := by
  have hvalid := toNat_cases c
  have hvalue : c.val.toNat = c.toNat := rfl
  rw [utf8Char, String.utf8EncodeChar]
  simp only [hvalue]
  -- The high bits of the first byte are added here and masked there.
  by_cases hone : c.toNat < 0x80
  · rw [if_pos hone, if_pos (by omega)]
  by_cases htwo : c.toNat < 0x800
  · have hfirst : 0xC0 + c.toNat / 64 = c.toNat / 64 % 32 + 192 := by omega
    rw [if_neg hone, if_pos htwo, if_neg (by omega), if_pos (by omega), hfirst,
      Nat.add_comm 0x80]
  by_cases hthree : c.toNat < 0x10000
  · have hfirst : 0xE0 + c.toNat / 4096 = c.toNat / 4096 % 16 + 224 := by omega
    rw [if_neg hone, if_neg htwo, if_pos hthree, if_neg (by omega), if_neg (by omega),
      if_pos (by omega), hfirst, Nat.add_comm 0x80, Nat.add_comm 0x80]
  · have hfirst : 0xF0 + c.toNat / 262144 = c.toNat / 262144 % 8 + 240 := by omega
    rw [if_neg hone, if_neg htwo, if_neg hthree, if_neg (by omega), if_neg (by omega),
      if_neg (by omega), hfirst, Nat.add_comm 0x80, Nat.add_comm 0x80, Nat.add_comm 0x80]

/-- The bytes that are written for a text are those that it has as a string. -/
theorem utf8_toList (s : String) : utf8 s.toList = s.toUTF8.data.toList := by
  have hbytes : s.toUTF8 = s.toList.utf8Encode := by
    rw [String.toUTF8_eq_toByteArray, ← String.toByteArray_ofList, String.ofList_toList]
  rw [hbytes, List.utf8Encode, List.data_toByteArray, utf8]
  exact congrArg (fun encode => s.toList.flatMap encode) (funext utf8Char_eq_utf8EncodeChar)

end AddressWatch.Text
