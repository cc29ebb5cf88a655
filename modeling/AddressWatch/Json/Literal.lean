/-
  AddressWatch.Json.Literal

  Reading the parts of a JSON text that hold no others: blanks, words, strings and numbers. Every
  reader takes the characters from where its part starts and gives the characters after it.

  A string that is only skipped may hold any four digits after `\u`; one that is read may not hold
  half of a surrogate pair. A number that is only skipped is never too large. A text that ends
  early is told apart from one that goes wrong.
-/

import AddressWatch.Binary64.Basic
import AddressWatch.Text.Utf8
import AddressWatch.Text.Utf16
import AddressWatch.Text.Numeral

namespace AddressWatch.Json

open Text

/-- Why a text is not what it should be: it ends too early, or it is not JSON. -/
inductive Fault where
  | ended
  | malformed
  deriving DecidableEq, Repr

/-- The characters between the parts of a JSON text. -/
def isBlank (c : Char) : Bool := c == ' ' || c == '\n' || c == '\t' || c == '\r'

/-- The text after its leading blanks. -/
def skipBlanks (cs : List Char) : List Char := cs.dropWhile isBlank

/-- Reads the rest of a word. -/
def readWord : List Char → List Char → Except Fault (List Char)
  | [], cs => .ok cs
  | _ :: _, [] => .error .ended
  | w :: word, c :: cs => if c = w then readWord word cs else .error .malformed

/-! ## Strings -/

/-- The number of four hexadecimal digits at the start of `cs`. -/
def fourDigits (cs : List Char) : Except Fault Nat :=
  let four := cs.take 4
  if (utf8 four).length < 4 then .error .ended
  else if four.length = 4 then
    match readNumeral 16 four with
    | some n => .ok n
    | none => .error .malformed
  else .error .malformed

/-- The character of an escape by a single letter. -/
def letterEscape? : Char → Option Char
  | '"' => some '"'
  | '\\' => some '\\'
  | '/' => some '/'
  | 'b' => some '\x08'
  | 'f' => some '\x0c'
  | 'n' => some '\n'
  | 'r' => some '\r'
  | 't' => some '\t'
  | _ => none

/-- The trailing half of a surrogate pair, which has to be escaped too. -/
def trailingHalf : List Char → Except Fault Nat
  | [] => .error .ended
  | '\\' :: [] => .error .ended
  | '\\' :: 'u' :: rest =>
    match fourDigits rest with
    | .error f => .error f
    | .ok n => if isTrailingSurrogate n then .ok n else .error .malformed
  | _ => .error .malformed

/-- Reads an escape after its backslash: the character and how many characters the escape takes. -/
def readEscape : List Char → Except Fault (Char × Nat)
  | [] => .error .ended
  | c :: rest =>
    if c = 'u' then
      match fourDigits rest with
      | .error f => .error f
      | .ok n =>
        if isTrailingSurrogate n then .error .malformed
        else if isLeadingSurrogate n then
          match trailingHalf (rest.drop 4) with
          | .error f => .error f
          | .ok m => .ok (surrogatePair n m, 11)
        else .ok (Char.ofNat n, 5)
    else
      match letterEscape? c with
      | some x => .ok (x, 1)
      | none => .error .malformed

/-- Skips an escape after its backslash: how many characters it takes. -/
def skipEscape : List Char → Except Fault Nat
  | [] => .error .ended
  | c :: rest =>
    if c = 'u' then
      match fourDigits rest with
      | .error f => .error f
      | .ok _ => .ok 5
    else if (letterEscape? c).isSome then .ok 1
    else .error .malformed

/-- Reads a string after its opening quote. -/
def readString : List Char → Except Fault (List Char × List Char)
  | [] => .error .ended
  | c :: rest =>
    if c = '"' then .ok ([], rest)
    else if c = '\\' then
      match readEscape rest with
      | .error f => .error f
      | .ok (x, n) =>
        match readString (rest.drop n) with
        | .error f => .error f
        | .ok (more, after) => .ok (x :: more, after)
    else if c.toNat < 0x20 then .error .malformed
    else
      match readString rest with
      | .error f => .error f
      | .ok (more, after) => .ok (c :: more, after)
termination_by cs => cs.length
decreasing_by all_goals simp; try omega

/-- Skips a string after its opening quote. -/
def skipString : List Char → Except Fault (List Char)
  | [] => .error .ended
  | c :: rest =>
    if c = '"' then .ok rest
    else if c = '\\' then
      match skipEscape rest with
      | .error f => .error f
      | .ok n => skipString (rest.drop n)
    else if c.toNat < 0x20 then .error .malformed
    else skipString rest
termination_by cs => cs.length
decreasing_by all_goals simp; try omega

/-! ## Numbers -/

/-- The digits at the start of a text, and what follows. -/
def spanDigits (cs : List Char) : List Char × List Char :=
  (cs.takeWhile isDecimalDigit, cs.dropWhile isDecimalDigit)

/-- A number as it is written. -/
structure NumberText where
  negative : Bool
  whole : List Char
  fraction : Option (List Char)
  exponent : Option (Bool × List Char)
  deriving DecidableEq, Repr

/-- What a missing digit means: that the text ended, where the end is looked for, or an error. -/
def missingDigit (endCounts : Bool) (cs : List Char) : Fault :=
  if endCounts && cs.isEmpty then .ended else .malformed

/-- Reads a number. No zero may stand in front of other digits, and a point and an exponent mark
must be followed by a digit. `endCounts` says whether a text that ends where a digit is missing
has ended early. -/
def readNumberText (endCounts : Bool) (cs : List Char) :
    Except Fault (NumberText × List Char) := do
  let negative := cs.head? == some '-'
  let cs := if negative then cs.tail else cs
  let (whole, cs) := spanDigits cs
  if whole.isEmpty then throw (missingDigit endCounts cs)
  if whole.head? = some '0' ∧ 1 < whole.length then throw .malformed
  let (fraction, cs) ← match cs with
    | '.' :: rest =>
      let (digits, rest) := spanDigits rest
      if digits.isEmpty then throw (missingDigit endCounts rest) else pure (some digits, rest)
    | _ => pure (none, cs)
  match cs with
  | mark :: rest =>
    if mark = 'e' ∨ mark = 'E' then
      let (down, rest) := match rest with
        | '-' :: more => (true, more)
        | '+' :: more => (false, more)
        | _ => (false, rest)
      let (digits, rest) := spanDigits rest
      if digits.isEmpty then throw (missingDigit endCounts rest)
      else pure (⟨negative, whole, fraction, some (down, digits)⟩, rest)
    else pure (⟨negative, whole, fraction, none⟩, cs)
  | [] => pure (⟨negative, whole, fraction, none⟩, cs)

/-- The value of a number: an integer where it is written as one and fits into 64 bits, otherwise
floating point. -/
inductive Number where
  | integer (i : Int)
  | float (negative : Bool) (magnitude : Binary64)
  deriving DecidableEq, Repr

/-- The greatest significand, that of 64 bits. -/
def maxSignificand : Nat := 0xFFFFFFFFFFFFFFFF

/-- The greatest magnitude of a negative integer. -/
def maxNegative : Nat := 0x8000000000000000

/-- Adds digits to a significand as long as it fits; also gives the number of digits left over. -/
def addDigits (n : Nat) : List Char → Nat × Nat
  | [] => (n, 0)
  | c :: rest =>
    let next := n * 10 + (c.toNat - 48)
    if maxSignificand < next then (n, rest.length + 1) else addDigits next rest

/-- The number `significand · 10 ^ power` as repeated rounding gives it: the significand is
rounded, then multiplied or divided by a power of ten, in steps of 308 places when there are more.
Too large a number has no value. -/
def scaled (significand : Nat) (power : Int) : Option Binary64 :=
  go 4 (.ofRatio significand 1) power
where
  /-- At most `fuel` steps; the third division makes every significand zero. -/
  go : Nat → Binary64 → Int → Option Binary64
    | 0, x, _ => some x
    | fuel + 1, x, power =>
      if power.natAbs ≤ 308 then
        if 0 ≤ power then
          match x.mul (.ofDecimal 1 power) with
          | .infinite => none
          | y => some y
        else some (x.div (.ofDecimal 1 (-power)))
      else if x.isZero then some x
      else if 0 ≤ power then none
      else go fuel (x.div (.ofDecimal 1 308)) (power + 308)

/-- The greatest exponent that is counted. -/
def maxPower : Nat := 0x7FFFFFFF

/-- The value of a number as it is written, unless it is too large. -/
def NumberText.value? (t : NumberText) : Option Number :=
  let (significand, dropped) := addDigits 0 t.whole
  let isInteger := t.fraction.isNone && t.exponent.isNone && dropped == 0
  if isInteger then
    if !t.negative then some (.integer significand)
    else if significand = 0 ∨ maxNegative < significand then
      some (.float true (.ofRatio significand 1))
    else some (.integer (-(significand : Int)))
  else
    let fraction := t.fraction.getD []
    let (significand, unused) := addDigits significand fraction
    let power : Int := dropped - ((fraction.length - unused : Nat) : Int)
    match t.exponent with
    | none => (scaled significand power).map (.float t.negative)
    | some (down, digits) =>
      let exponent := (readDigits 10 0 digits).getD 0
      if maxPower < exponent then
        if significand ≠ 0 ∧ !down then none else some (.float t.negative .zero)
      else
        let total := if down then power - exponent else power + exponent
        let bounded := max (-(maxPower : Int) - 1) (min maxPower total)
        (scaled significand bounded).map (.float t.negative)

/-- Reads a number. -/
def readNumber (cs : List Char) : Except Fault (Number × List Char) := do
  let (t, rest) ← readNumberText true cs
  match t.value? with
  | some n => pure (n, rest)
  | none => throw .malformed

end AddressWatch.Json
