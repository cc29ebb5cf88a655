/-
  AddressWatch.Toml.Scalar

  Values of a settings text that are one word: truth values, numbers, dates and times.
-/

import AddressWatch.Text.Numeral
import AddressWatch.Toml.Value

namespace AddressWatch.Toml

/-! ## Numbers -/

/-- The digits of a number: underscores may stand between two of them. -/
def digits? (base : Nat) (cs : List Char) : Option (List Char) :=
  let groups := cs.splitOnP (· == '_')
  if groups.all fun g => !g.isEmpty && g.all fun c => (Text.digitValue? base c).isSome then
    some groups.flatten
  else none

/-- Decimal digits without a leading zero. -/
def wholeDigits? (cs : List Char) : Option (List Char) :=
  (digits? 10 cs).filter fun ds => ds.length == 1 || ds.head? != some '0'

/-- The sign of a word, and the word without it. -/
def splitSign : List Char → Bool × List Char
  | '-' :: rest => (true, rest)
  | '+' :: rest => (false, rest)
  | cs => (false, cs)

/-- An integer in one of the bases; those other than ten have no sign. -/
def integer? (cs : List Char) : Option Int :=
  let inBase (base : Nat) (rest : List Char) : Option Int :=
    ((digits? base rest).bind (Text.readNumeral base)).map Int.ofNat
  match cs with
  | '0' :: 'x' :: rest => inBase 16 rest
  | '0' :: 'o' :: rest => inBase 8 rest
  | '0' :: 'b' :: rest => inBase 2 rest
  | _ =>
    let (negative, rest) := splitSign cs
    ((wholeDigits? rest).bind (Text.readNumeral 10)).map fun n => if negative then -(n : Int) else n

/-- The magnitude of digits and a power of ten; powers that no number reaches are cut short. -/
def magnitude (digits : List Char) (power : Int) : Binary64 :=
  let n := (Text.readNumeral 10 digits).getD 0
  let places := power + digits.length
  if n = 0 then .zero
  else if 400 < places then .infinite
  else if places < -400 then .zero
  else .ofDecimal n power

/-- The exponent behind its mark. -/
def exponent? (cs : List Char) : Option Int :=
  let (negative, rest) := splitSign cs
  ((digits? 10 rest).bind (Text.readNumeral 10)).map fun n => if negative then -(n : Int) else n

/-- A floating-point number: digits with a fraction, an exponent or both. -/
def decimalFloat? (negative : Bool) (cs : List Char) : Option TomlFloat := do
  let isMark (c : Char) : Bool := c == 'e' || c == 'E'
  let mantissa := cs.takeWhile (! isMark ·)
  let whole := mantissa.takeWhile (· != '.')
  let ds ← wholeDigits? whole
  let fraction ← match mantissa.drop whole.length with
    | [] => some []
    | _ :: rest => digits? 10 rest
  let exponent ← match cs.drop mantissa.length with
    | [] => if mantissa.length = whole.length then none else some 0
    | _ :: rest => exponent? rest
  some (.number negative (magnitude (ds ++ fraction) (exponent - fraction.length)))

/-- A floating-point number. -/
def float? (cs : List Char) : Option TomlFloat :=
  let (negative, rest) := splitSign cs
  if rest = ['i', 'n', 'f'] then some (.infinity negative)
  else if rest = ['n', 'a', 'n'] then some .notANumber
  else decimalFloat? negative rest

/-! ## Dates and times -/

/-- A number of exactly `count` digits at the start of a word, and the rest. -/
def fixedNumber? (count : Nat) (cs : List Char) : Option (Nat × List Char) :=
  let ds := cs.take count
  if ds.length = count ∧ ds.all Text.isDecimalDigit then
    (Text.readNumeral 10 ds).map fun n => (n, cs.drop count)
  else none

/-- The rest behind a given character. -/
def behind? (c : Char) : List Char → Option (List Char)
  | d :: rest => if d = c then some rest else none
  | [] => none

/-- Whether a year is a leap year. -/
def isLeapYear (year : Nat) : Bool := year % 4 == 0 && (year % 100 != 0 || year % 400 == 0)

/-- The number of days of a month. -/
def daysOfMonth (year month : Nat) : Nat :=
  if month = 2 then (if isLeapYear year then 29 else 28)
  else if month = 4 ∨ month = 6 ∨ month = 9 ∨ month = 11 then 30
  else 31

/-- The rest behind a date. -/
def afterDate? (cs : List Char) : Option (List Char) := do
  let (year, cs) ← fixedNumber? 4 cs
  let (month, cs) ← fixedNumber? 2 (← behind? '-' cs)
  let (day, cs) ← fixedNumber? 2 (← behind? '-' cs)
  if 1 ≤ month ∧ month ≤ 12 ∧ 1 ≤ day ∧ day ≤ daysOfMonth year month then some cs else none

/-- The rest behind a fraction of a second. -/
def afterFraction? : List Char → Option (List Char)
  | '.' :: rest =>
    match rest with
    | c :: _ => if Text.isDecimalDigit c then some (rest.dropWhile Text.isDecimalDigit) else none
    | [] => none
  | cs => some cs

/-- The rest behind a time of day; its seconds may be left out. -/
def afterTime? (cs : List Char) : Option (List Char) := do
  let (hour, cs) ← fixedNumber? 2 cs
  let (minute, cs) ← fixedNumber? 2 (← behind? ':' cs)
  if 24 ≤ hour ∨ 60 ≤ minute then none
  else
    match cs with
    | ':' :: rest =>
      let (second, rest) ← fixedNumber? 2 rest
      if 60 < second then none else afterFraction? rest
    | _ => some cs

/-- Whether a word is the distance of a time zone, or nothing. -/
def isZone (cs : List Char) : Bool :=
  match cs with
  | [] | ['Z'] | ['z'] => true
  | sign :: rest =>
    (sign == '+' || sign == '-') &&
      match fixedNumber? 2 rest with
      | some (hour, ':' :: more) =>
        match fixedNumber? 2 more with
        | some (minute, []) => hour < 24 && minute < 60
        | _ => false
      | _ => false

/-- Whether a word is a date, a time of day, or both. -/
def isDatetime (cs : List Char) : Bool :=
  match afterDate? cs with
  | some [] => true
  | some (c :: rest) =>
    (c == 'T' || c == 't' || c == ' ') && (afterTime? rest).any isZone
  | none => afterTime? cs == some []

/-! ## Words -/

/-- Whether a character may stand in a word. -/
def isWordChar (c : Char) : Bool :=
  c.isAlphanum || c == '_' || c == '-' || c == '+' || c == '.' || c == ':'

/-- Reads the word of a value. A date and a time with one blank between them are one word. -/
def readWord (cs : List Char) : List Char × List Char :=
  let word := cs.takeWhile isWordChar
  let rest := cs.drop word.length
  match rest with
  | ' ' :: c :: more =>
    if afterDate? word == some [] && Text.isDecimalDigit c then
      let time := (c :: more).takeWhile isWordChar
      (word ++ ' ' :: time, (c :: more).drop time.length)
    else (word, rest)
  | _ => (word, rest)

/-- The value of a word. -/
def scalar? (word : List Char) : Option Toml :=
  if word = ['t', 'r', 'u', 'e'] then some (.boolean true)
  else if word = ['f', 'a', 'l', 's', 'e'] then some (.boolean false)
  else if isDatetime word then some .datetime
  else ((integer? word).map .integer) <|> ((float? word).map .float)

end AddressWatch.Toml
