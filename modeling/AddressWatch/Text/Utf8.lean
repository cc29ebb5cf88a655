/-
  AddressWatch.Text.Utf8

  Characters as bytes and bytes as characters. `decode?` accepts exactly the well-formed byte
  strings; `decodeLossy` reads any byte string, giving one U+FFFD for every maximal malformed
  part: the longest start of a well-formed character that is cut short, or else a single byte.
-/

namespace AddressWatch.Text

/-- The UTF-8 bytes of one character. -/
def utf8Char (c : Char) : List UInt8 :=
  let n := c.toNat
  if n < 0x80 then [UInt8.ofNat n]
  else if n < 0x800 then [UInt8.ofNat (0xC0 + n / 64), UInt8.ofNat (0x80 + n % 64)]
  else if n < 0x10000 then
    [UInt8.ofNat (0xE0 + n / 4096), UInt8.ofNat (0x80 + n / 64 % 64), UInt8.ofNat (0x80 + n % 64)]
  else
    [UInt8.ofNat (0xF0 + n / 262144), UInt8.ofNat (0x80 + n / 4096 % 64),
      UInt8.ofNat (0x80 + n / 64 % 64), UInt8.ofNat (0x80 + n % 64)]

/-- The UTF-8 bytes of a text. -/
def utf8 (cs : List Char) : List UInt8 := cs.flatMap utf8Char

/-- Whether `b` is a continuation byte. -/
def isTail (b : UInt8) : Bool := 0x80 ≤ b.toNat && b.toNat ≤ 0xBF

/-- How many bytes a character with first byte `b` has, and the range of its second byte. -/
def leadByte? (b : UInt8) : Option (Nat × Nat × Nat) :=
  let n := b.toNat
  if n ≤ 0x7F then some (1, 0, 0)
  else if n < 0xC2 then none
  else if n ≤ 0xDF then some (2, 0x80, 0xBF)
  else if n = 0xE0 then some (3, 0xA0, 0xBF)
  else if n = 0xED then some (3, 0x80, 0x9F)
  else if n ≤ 0xEF then some (3, 0x80, 0xBF)
  else if n = 0xF0 then some (4, 0x90, 0xBF)
  else if n ≤ 0xF3 then some (4, 0x80, 0xBF)
  else if n = 0xF4 then some (4, 0x80, 0x8F)
  else none

/-- How many of the first `width` bytes of `bytes` agree with a well-formed character whose second
byte lies between `low` and `high`. -/
def agreeing (width low high : Nat) : List UInt8 → Nat
  | [] => 0
  | _ :: rest =>
    match rest with
    | [] => 1
    | second :: more =>
      if width < 2 || second.toNat < low || high < second.toNat then 1
      else 2 + ((more.take (width - 2)).takeWhile isTail).length

/-- The number that the payload bits of a character's bytes spell. -/
def payload : List UInt8 → Nat
  | [a] => a.toNat
  | [a, b] => (a.toNat - 0xC0) * 64 + (b.toNat - 0x80)
  | [a, b, c] => (a.toNat - 0xE0) * 4096 + (b.toNat - 0x80) * 64 + (c.toNat - 0x80)
  | [a, b, c, d] =>
    (a.toNat - 0xF0) * 262144 + (b.toNat - 0x80) * 4096 + (c.toNat - 0x80) * 64 + (d.toNat - 0x80)
  | _ => 0

/-- The first character of a non-empty byte string, or none where no character stands; and how many
bytes it or the malformed part takes, at least one. -/
def firstChar (b : UInt8) (rest : List UInt8) : Option Char × Nat :=
  match leadByte? b with
  | none => (none, 1)
  | some (width, low, high) =>
    let n := agreeing width low high (b :: rest)
    if n < width then (none, max n 1)
    else (some (Char.ofNat (payload ((b :: rest).take width))), max width 1)

/-- The text of a byte string, each malformed part read as U+FFFD. -/
def decodeLossy : List UInt8 → List Char
  | [] => []
  | b :: rest =>
    (firstChar b rest).1.getD '\uFFFD' :: decodeLossy (rest.drop ((firstChar b rest).2 - 1))
termination_by bytes => bytes.length
decreasing_by simp only [List.length_drop, List.length_cons]; omega

/-- The text of a well-formed byte string. -/
def decode? : List UInt8 → Option (List Char)
  | [] => some []
  | b :: rest =>
    match (firstChar b rest).1 with
    | none => none
    | some c => (decode? (rest.drop ((firstChar b rest).2 - 1))).map (c :: ·)
termination_by bytes => bytes.length
decreasing_by simp only [List.length_drop, List.length_cons]; omega

end AddressWatch.Text
