/-
  AddressWatch.Unicode.ByteRanges

  The UTF-8 forms of the characters of a range, as strings of byte ranges: a character is in the
  range exactly when its bytes lie in the ranges of one of the strings, byte for byte. A string
  stands for characters of one block of 64, or for whole blocks of 64, 4096 or 262144 characters.
-/

import AddressWatch.Unicode.CodeSet

namespace AddressWatch.Unicode

/-- The values of one byte of an encoded character. -/
structure ByteRange where
  low : Nat
  high : Nat
  deriving DecidableEq, Repr

/-- Any byte behind the first one. -/
def anyTail : ByteRange := ⟨0x80, 0xBF⟩

/-- The strings for the numbers from `low` to `high` with `tails` bytes of six bits behind the
first byte; `mark` is what the first byte adds to its share of the number. -/
def splitRange (mark : Nat) : Nat → Nat → Nat → List (List ByteRange)
  | 0, low, high => [[⟨mark + low, mark + high⟩]]
  | tails + 1, low, high =>
    let block := 1 <<< (6 * (tails + 1))
    let (first, last) := (low / block, high / block)
    let under (head least greatest : Nat) : List (List ByteRange) :=
      (splitRange 0x80 tails least greatest).map (⟨mark + head, mark + head⟩ :: ·)
    if first = last then under first (low % block) (high % block)
    else
      let startsBlock := low % block = 0
      let endsBlock := high % block = block - 1
      let whole := if startsBlock then first else first + 1
      let beyond := if endsBlock then last + 1 else last
      (if startsBlock then [] else under first (low % block) (block - 1))
        ++ (if whole < beyond then
            [⟨mark + whole, mark + (beyond - 1)⟩ :: List.replicate (tails + 1) anyTail]
          else [])
        ++ (if endsBlock then [] else under last 0 (high % block))

/-- Characters of one encoded length, the number of bytes behind their first one and the mark of
that first byte. -/
structure EncodedLength where
  codes : CodeRange
  tails : Nat
  mark : Nat

/-- All characters by their encoded length, in ascending order; surrogates are no characters. -/
def encodedLengths : List EncodedLength :=
  [ ⟨⟨0, 0x7F⟩, 0, 0⟩, ⟨⟨0x80, 0x7FF⟩, 1, 0xC0⟩, ⟨⟨0x800, 0xD7FF⟩, 2, 0xE0⟩,
    ⟨⟨0xE000, 0xFFFF⟩, 2, 0xE0⟩, ⟨⟨0x10000, 0x10FFFF⟩, 3, 0xF0⟩ ]

/-- The strings of byte ranges for the characters of a range, in ascending order. -/
def CodeRange.byteRanges (r : CodeRange) : List (List ByteRange) :=
  encodedLengths.flatMap fun l =>
    let low := max r.low l.codes.low
    let high := min r.high l.codes.high
    if low ≤ high then splitRange l.mark l.tails low high else []

/-- The strings of byte ranges for the characters of a set in normal form, in ascending order. -/
def CodeSet.byteRanges (s : CodeSet) : List (List ByteRange) := s.flatMap CodeRange.byteRanges

/-- The length of the common start of two lists. -/
def commonStart {α : Type} [DecidableEq α] : List α → List α → Nat
  | x :: xs, y :: ys => if x = y then commonStart xs ys + 1 else 0
  | _, _ => 0

/-- How many different starts other than the empty one the strings have, where strings with a
common start stand together; `previous` is the string in front of them. -/
def countStarts (previous : List ByteRange) : List (List ByteRange) → Nat
  | [] => 0
  | s :: rest => (s.length - commonStart previous s) + countStarts s rest

end AddressWatch.Unicode
