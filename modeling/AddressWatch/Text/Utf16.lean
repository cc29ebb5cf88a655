/-
  AddressWatch.Text.Utf16

  Characters as code units of 16 bits, and back. A unit of the surrogate range stands only in a
  leading and trailing pair.
-/

namespace AddressWatch.Text

/-- Whether a code unit leads a surrogate pair. -/
def isLeadingSurrogate (n : Nat) : Bool := 0xD800 ≤ n && n ≤ 0xDBFF

/-- Whether a code unit ends a surrogate pair. -/
def isTrailingSurrogate (n : Nat) : Bool := 0xDC00 ≤ n && n ≤ 0xDFFF

/-- The character of a surrogate pair. -/
def surrogatePair (lead trail : Nat) : Char :=
  Char.ofNat (0x10000 + (lead - 0xD800) * 1024 + (trail - 0xDC00))

/-- The code units of a character. -/
def utf16Char (c : Char) : List UInt16 :=
  let n := c.toNat
  if n < 0x10000 then [UInt16.ofNat n]
  else
    [UInt16.ofNat (0xD800 + (n - 0x10000) / 1024), UInt16.ofNat (0xDC00 + (n - 0x10000) % 1024)]

/-- The code units of a text. -/
def utf16 (cs : List Char) : List UInt16 := cs.flatMap utf16Char

/-- The text of a code unit string, unless a surrogate stands alone. -/
def decodeUtf16? : List UInt16 → Option (List Char)
  | [] => some []
  | u :: rest =>
    if isLeadingSurrogate u.toNat then
      match rest with
      | [] => none
      | v :: more =>
        if isTrailingSurrogate v.toNat then
          (decodeUtf16? more).map (surrogatePair u.toNat v.toNat :: ·)
        else none
    else if isTrailingSurrogate u.toNat then none
    else (decodeUtf16? rest).map (Char.ofNat u.toNat :: ·)

end AddressWatch.Text
