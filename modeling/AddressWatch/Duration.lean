/-
  AddressWatch.Duration

  Spans of time with nanosecond resolution, how long a wait a millisecond count asks for, and the
  millisecond argument of a system wait: the least whole number of milliseconds that is not
  shorter than the span, or the greatest argument where that does not fit.
-/

import AddressWatch.Text.Numeral

namespace AddressWatch

/-- A span of time: whole seconds and the nanoseconds beyond them. -/
structure Duration where
  seconds : UInt64
  nanos : UInt32
  nanos_lt : nanos.toNat < 1000000000
  deriving DecidableEq

namespace Duration

/-- The span in nanoseconds. -/
def totalNanos (d : Duration) : Nat := d.seconds.toNat * 1000000000 + d.nanos.toNat

/-- The whole milliseconds in the span. -/
def wholeMillis (d : Duration) : Nat := d.totalNanos / 1000000

/-- The whole microseconds in the span. -/
def wholeMicros (d : Duration) : Nat := d.totalNanos / 1000

/-- The span of `n` units, of which `perSecond` make a second. -/
def ofUnits (perSecond : Nat) (n : UInt64) : Duration :=
  let nanos := n.toNat % perSecond * (1000000000 / perSecond)
  { seconds := UInt64.ofNat (n.toNat / perSecond)
    nanos := UInt32.ofNat (nanos % 1000000000)
    nanos_lt := by
      have h : nanos % 1000000000 < 1000000000 := Nat.mod_lt _ (by decide)
      rw [UInt32.toNat_ofNat']
      exact Nat.lt_of_le_of_lt (Nat.mod_le _ _) h }

/-- No unit of a span is lost where the nanoseconds of a unit are a whole number. -/
theorem totalNanos_ofUnits {perSecond : Nat} (hpos : 0 < perSecond)
    (hwhole : perSecond * (1000000000 / perSecond) = 1000000000) (n : UInt64) :
    (ofUnits perSecond n).totalNanos = n.toNat * (1000000000 / perSecond) := by
  have hunit : 0 < 1000000000 / perSecond := by
    refine Nat.pos_of_ne_zero fun h => ?_
    rw [h] at hwhole
    omega
  have hless : n.toNat % perSecond * (1000000000 / perSecond) < 1000000000 :=
    calc n.toNat % perSecond * (1000000000 / perSecond)
        < perSecond * (1000000000 / perSecond) :=
          Nat.mul_lt_mul_of_pos_right (Nat.mod_lt _ hpos) hunit
      _ = 1000000000 := hwhole
  have hseconds : (ofUnits perSecond n).seconds.toNat = n.toNat / perSecond := by
    rw [ofUnits, UInt64.toNat_ofNat', Nat.mod_eq_of_lt]
    exact Nat.lt_of_le_of_lt (Nat.div_le_self _ _) n.toNat_lt
  have hnanos : (ofUnits perSecond n).nanos.toNat =
      n.toNat % perSecond * (1000000000 / perSecond) := by
    rw [ofUnits, UInt32.toNat_ofNat', Nat.mod_eq_of_lt hless, Nat.mod_eq_of_lt]
    omega
  have hparts : n.toNat / perSecond * perSecond + n.toNat % perSecond = n.toNat :=
    Nat.div_add_mod' _ _
  calc (ofUnits perSecond n).totalNanos
      = n.toNat / perSecond * 1000000000 + n.toNat % perSecond * (1000000000 / perSecond) := by
        rw [totalNanos, hseconds, hnanos]
    _ = (n.toNat / perSecond * perSecond + n.toNat % perSecond) * (1000000000 / perSecond) := by
        rw [Nat.add_mul, Nat.mul_assoc, hwhole]
    _ = n.toNat * (1000000000 / perSecond) := by rw [hparts]

/-- The span of `ms` milliseconds. -/
def ofMillis (ms : UInt64) : Duration := ofUnits 1000 ms

theorem totalNanos_ofMillis (ms : UInt64) : (ofMillis ms).totalNanos = ms.toNat * 1000000 :=
  totalNanos_ofUnits (by decide) (by decide) ms

/-- The span of `us` microseconds. -/
def ofMicros (us : UInt64) : Duration := ofUnits 1000000 us

/-- `whole` and the decimal fraction `part`, which has `places` digits of which trailing zeros are
left out; then the unit. -/
def fractionText (whole part places : Nat) (unit : String) : String :=
  let digits := Text.padZeros places (Text.numeral 10 part)
  let shown := (digits.reverse.dropWhile (· == '0')).reverse
  Text.decimal whole ++ (if shown.isEmpty then "" else "." ++ String.ofList shown) ++ unit

/-- The span in the largest unit of seconds, milliseconds, microseconds and nanoseconds that it
fills. -/
def text (d : Duration) : String :=
  let n := d.nanos.toNat
  if 0 < d.seconds then fractionText d.seconds.toNat n 9 "s"
  else if 1000000 ≤ n then fractionText (n / 1000000) (n % 1000000) 6 "ms"
  else if 1000 ≤ n then fractionText (n / 1000) (n % 1000) 3 "µs"
  else fractionText n 0 0 "ns"

end Duration

/-- How long an operation may wait: a span, or without end. -/
abbrev Wait := Option Duration

namespace Wait

/-- The wait that a signed millisecond count asks for; a negative one asks to wait without end. -/
def ofMillis (ms : Int64) : Wait :=
  if ms < 0 then none else some (.ofMillis (UInt64.ofNat ms.toInt.toNat))

/-- The greatest millisecond argument of a system wait. -/
def maxArgument : Nat := 2147483647

/-- The millisecond argument of a system wait; -1 waits without end. -/
def argument : Wait → Int
  | none => -1
  | some d => min ((d.totalNanos + 999999) / 1000000) maxArgument

end Wait

end AddressWatch
