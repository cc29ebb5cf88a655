/-
  AddressWatch.Binary64.Basic

  Double-precision numbers without their sign, as exact natural arithmetic: a finite one is
  `significand · 2 ^ exponent` with the significand below 2 ^ 53. Ratios are rounded to the
  nearest number, ties to the even significand.
-/

namespace AddressWatch

/-- A non-negative double-precision number. -/
inductive Binary64 where
  | finite (significand : Nat) (exponent : Int)
  | infinite
  deriving DecidableEq, Repr

namespace Binary64

/-- The least exponent of a number, that of the subnormal ones. -/
def minExponent : Int := -1074

/-- The greatest exponent of a finite number. -/
def maxExponent : Int := 971

/-- The least significand of 53 bits. -/
def leastNormal : Nat := 0x10000000000000

/-- A power of ten. -/
def tenTo (n : Nat) : Nat := Nat.pow 10 n

/-- Zero. -/
def zero : Binary64 := .finite 0 minExponent

/-- Whether the number is zero. -/
def isZero : Binary64 → Bool
  | .finite m _ => m == 0
  | .infinite => false

/-- `n / d` rounded to the nearest integer, ties to even. -/
def roundDiv (n d : Nat) : Nat :=
  let q := n / d
  let twice := 2 * (n % d)
  if twice < d ∨ (twice = d ∧ q % 2 = 0) then q else q + 1

/-- `num / den` as a numerator and a denominator counted in units of `2 ^ e`. -/
def inUnits (num den : Nat) (e : Int) : Nat × Nat :=
  if 0 ≤ e then (num, den <<< e.toNat) else (num <<< (-e).toNat, den)

/-- The exponent for which `num / den` has a significand of 53 bits, or the least exponent. -/
def exponentFor (num den : Nat) : Int :=
  let guess : Int := (Nat.log2 num : Int) - Nat.log2 den - 52
  let (n, d) := inUnits num den guess
  let exact := if n / d < leastNormal then guess - 1 else guess
  max exact minExponent

/-- The number nearest to `num / den`. -/
def ofRatio (num den : Nat) : Binary64 :=
  if num = 0 then zero
  else
    let e := exponentFor num den
    let (n, d) := inUnits num den e
    let m := roundDiv n d
    let (m, e) := if m = 2 * leastNormal then (leastNormal, e + 1) else (m, e)
    if maxExponent < e then infinite else .finite m e

/-- The number nearest to `digits · 10 ^ power`. -/
def ofDecimal (digits : Nat) (power : Int) : Binary64 :=
  if 0 ≤ power then ofRatio (digits * tenTo power.toNat) 1
  else ofRatio digits (tenTo (-power).toNat)

/-- A finite number as a ratio. -/
def ratio (m : Nat) (e : Int) : Nat × Nat :=
  if 0 ≤ e then (m <<< e.toNat, 1) else (m, 1 <<< (-e).toNat)

/-- The product, rounded. -/
def mul : Binary64 → Binary64 → Binary64
  | .finite m e, .finite m' e' =>
    let (n, d) := ratio (m * m') (e + e')
    ofRatio n d
  | _, _ => infinite

/-- The quotient by a number that is not zero, rounded. -/
def div : Binary64 → Binary64 → Binary64
  | .finite m e, .finite m' e' =>
    let (n, d) := ratio m (e - e')
    ofRatio n (d * m')
  | _, _ => infinite

end Binary64

end AddressWatch
