/-
  AddressWatch.Unicode.CodeSet

  Sets of code points as lists of inclusive ranges. In normal form the ranges ascend with gaps
  between them; the set operations give normal forms.
-/

import AddressWatch.Text.Numeral

namespace AddressWatch.Unicode

/-- The code points from `low` to `high`. -/
structure CodeRange where
  low : Nat
  high : Nat
  deriving DecidableEq, Repr

/-- A set of code points. -/
abbrev CodeSet := List CodeRange

/-- The greatest code point. -/
def maxCode : Nat := 0x10FFFF

namespace CodeSet

/-- Whether the code point `n` is in the set. -/
def has (s : CodeSet) (n : Nat) : Bool := s.any fun r => r.low ≤ n && n ≤ r.high

/-- The set of one code point. -/
def single (n : Nat) : CodeSet := [⟨n, n⟩]

/-- Joins each range to the one before it where the two touch; the ranges ascend by their low
ends. -/
def merge : List CodeRange → CodeSet
  | [] => []
  | r :: rest => go r rest
where
  /-- Joins `rest` to the open range `current`. -/
  go (current : CodeRange) : List CodeRange → CodeSet
    | [] => [current]
    | r :: rest =>
      if r.low ≤ current.high + 1 then go ⟨current.low, max current.high r.high⟩ rest
      else current :: go r rest

/-- The normal form of any list of ranges. -/
def normalize (s : CodeSet) : CodeSet :=
  merge ((s.filter fun r => r.low ≤ r.high).mergeSort fun a b => a.low ≤ b.low)

/-- The code points in either set. -/
def union (s t : CodeSet) : CodeSet := normalize (s ++ t)

/-- The code points from `start` on that are not in the normal form `s`. -/
def gaps (start : Nat) : CodeSet → CodeSet
  | [] => if start ≤ maxCode then [⟨start, maxCode⟩] else []
  | r :: rest =>
    if start < r.low then ⟨start, r.low - 1⟩ :: gaps (r.high + 1) rest else gaps (r.high + 1) rest

/-- The code points that are not in the set. -/
def complement (s : CodeSet) : CodeSet := gaps 0 (normalize s)

/-- The code points in both sets. -/
def inter (s t : CodeSet) : CodeSet := complement (union (complement s) (complement t))

/-- The code points in the first set and not in the second. -/
def diff (s t : CodeSet) : CodeSet := inter s (complement t)

/-- The code points in exactly one of the sets. -/
def symmDiff (s t : CodeSet) : CodeSet := union (diff s t) (diff t s)

/-- Whether every code point of the set is below 128. -/
def isAscii (s : CodeSet) : Bool := s.all fun r => r.high < 128

end CodeSet

/-- The range written as `low-high`, or as one number, in hexadecimal. -/
def readRange? (word : List Char) : Option CodeRange :=
  match Text.readNumeral 16 (word.takeWhile (· ≠ '-')), word.dropWhile (· ≠ '-') with
  | some low, [] => some ⟨low, low⟩
  | some low, _ :: high => (Text.readNumeral 16 high).map fun n => ⟨low, n⟩
  | none, _ => none

/-- The words of a text, with blanks or line breaks between them. -/
def words (cs : List Char) : List (List Char) :=
  (cs.splitOnP fun c => c == ' ' || c == '\n').filter (! ·.isEmpty)

/-- Ranges with blanks or line breaks between them. -/
def CodeSet.ofText (text : String) : CodeSet := (words text.toList).filterMap readRange?

/-- A set of code points known by several names, all in lower case and without separators. -/
structure NamedRanges where
  names : List String
  text : String

/-- The entry of a table under a name. -/
def NamedRanges.find? (table : List NamedRanges) (name : String) : Option CodeSet :=
  (table.find? fun entry => entry.names.contains name).map fun entry => CodeSet.ofText entry.text

end AddressWatch.Unicode
