/-
  AddressWatch.Binary64.Shortest

  The shortest decimal digits that read back as a given double-precision number, and the two ways
  in which messages lay them out.
-/

import AddressWatch.Binary64.Basic
import AddressWatch.Text.Numeral

namespace AddressWatch.Binary64

/-- Decimal digits and the power of ten that their last digit counts. -/
structure Decimal where
  digits : Nat
  power : Int
  deriving DecidableEq, Repr

/-- The interval of ratios that round to a number, in quarters of its unit: the lower end, the
number and the upper end; and whether the ends belong to it. -/
structure Rounding where
  low : Nat
  value : Nat
  high : Nat
  closed : Bool

/-- The interval around `m · 2 ^ e`; below a power of two the next number is only half as far
away. -/
def rounding (m : Nat) (e : Int) : Rounding :=
  let below := if m = leastNormal ∧ minExponent < e then 1 else 2
  { low := 4 * m - below, value := 4 * m, high := 4 * m + 2, closed := m % 2 = 0 }

/-- The nearest multiple of `10 ^ power` to the number that lies in its interval, if one does. The
interval is counted in units of `2 ^ (e - 2)`. -/
def onGrid? (r : Rounding) (e power : Int) : Option Nat :=
  let (num, den) := ratio 1 (e - 2)
  let (stepNum, stepDen) : Nat × Nat :=
    if 0 ≤ power then (tenTo power.toNat, 1) else (1, tenTo (-power).toNat)
  let scale := num * stepDen
  let step := stepNum * den
  let inside (k : Nat) : Bool :=
    let x := k * step
    if r.closed then r.low * scale ≤ x && x ≤ r.high * scale
    else r.low * scale < x && x < r.high * scale
  let k := r.value * scale / step
  let down := r.value * scale - k * step
  let up := (k + 1) * step - r.value * scale
  match inside k, inside (k + 1) with
  | true, true => some (if down < up ∨ (down = up ∧ k % 2 = 0) then k else k + 1)
  | true, false => some k
  | false, true => some (k + 1)
  | false, false => none

/-- The multiple on the coarsest of the grids `10 ^ power`, `10 ^ (power - 1)` and so on that has
one in the interval. -/
def coarsest (r : Rounding) (e : Int) : Nat → Int → Decimal
  | 0, power => ⟨r.value, power⟩
  | fuel + 1, power =>
    match onGrid? r e power with
    | some k => if k = 0 then coarsest r e fuel (power - 1) else ⟨k, power⟩
    | none => coarsest r e fuel (power - 1)

/-- The shortest digits of `m · 2 ^ e`. A grid with 18 digits always has a multiple in the
interval. -/
def shortest (m : Nat) (e : Int) : Decimal :=
  let (n, d) := ratio m e
  let top : Int := ((Text.numeral 10 (n / d)).length : Int)
  coarsest (rounding m e) e 400 top

/-- The digits without trailing zeros, and how many places before the point the first of them
stands. -/
def significant (x : Decimal) : List Char × Int :=
  let all := Text.numeral 10 x.digits
  ((all.reverse.dropWhile (· == '0')).reverse, all.length + x.power)

/-- The number written without an exponent, with a point and at least one digit on either side of
it. -/
def positional (digits : List Char) (point : Int) : List Char :=
  let n : Int := digits.length
  if point ≤ 0 then '0' :: '.' :: List.replicate (-point).toNat '0' ++ digits
  else if n ≤ point then digits ++ List.replicate (point - n).toNat '0' ++ ['.', '0']
  else digits.take point.toNat ++ '.' :: digits.drop point.toNat

/-- The number written with one digit before the point and an exponent. -/
def scientific (digits : List Char) (point : Int) : List Char :=
  let mantissa := match digits with
    | [] => []
    | [d] => [d]
    | d :: rest => d :: '.' :: rest
  mantissa ++ 'e' :: (Text.signedDecimal (point - 1)).toList

/-- Where numbers begin to be written with an exponent. -/
structure Layout where
  /-- Whether there is a form with an exponent at all. -/
  exponents : Bool
  /-- The most places before the point. -/
  maxPlaces : Int
  /-- The most zeros between the point and the first digit. -/
  maxZeros : Int

/-- The text of a number in a layout. -/
def text (layout : Layout) (negative : Bool) : Binary64 → String
  | .infinite => if negative then "-inf" else "inf"
  | .finite m e =>
    let body :=
      if m = 0 then ['0', '.', '0']
      else
        let (digits, point) := significant (shortest m e)
        if layout.exponents ∧ (layout.maxPlaces < point ∨ point < -layout.maxZeros) then
          scientific digits point
        else positional digits point
    String.ofList (if negative then '-' :: body else body)

end AddressWatch.Binary64
