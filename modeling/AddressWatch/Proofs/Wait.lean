/-
  AddressWatch.Proofs.Wait

  The millisecond argument of a system wait. It waits without end exactly where no span is given,
  and not at all exactly for a span of zero; otherwise it is the least whole number of milliseconds
  that is not shorter than the span, as far as arguments go (`RoundsUp`). Words of 128 bits hold all
  that is computed on the way, and no span comes out as another argument in a word of 32 bits
  (`Duration.toNat_millisWord`, `toInt_argumentWord`).
-/

import Mathlib.Order.Bounds.Basic
import AddressWatch.Duration

namespace AddressWatch

/-! ## Milliseconds of a span -/

namespace Duration

/-- The milliseconds of a span, of which the last one may be filled only in part. -/
def millisUp (d : Duration) : Nat := (d.totalNanos + 999999) / 1000000

theorem isLeast_millisUp (d : Duration) :
    IsLeast {ms : Nat | d.totalNanos ≤ ms * 1000000} d.millisUp := by
  constructor
  · show d.totalNanos ≤ (d.totalNanos + 999999) / 1000000 * 1000000
    omega
  · intro ms hms
    have hms : d.totalNanos ≤ ms * 1000000 := hms
    show (d.totalNanos + 999999) / 1000000 ≤ ms
    omega

/-- Less than a millisecond is added. -/
theorem millisUp_lt (d : Duration) : d.millisUp * 1000000 < d.totalNanos + 1000000 := by
  rw [millisUp]
  omega

theorem millisUp_mono {d d' : Duration} (hd : d.totalNanos ≤ d'.totalNanos) :
    d.millisUp ≤ d'.millisUp :=
  Nat.div_le_div_right (Nat.add_le_add_right hd 999999)

theorem millisUp_ofMillis (ms : UInt64) : (ofMillis ms).millisUp = ms.toNat := by
  rw [millisUp, totalNanos_ofMillis]
  omega

theorem totalNanos_eq_zero_iff {d : Duration} :
    d.totalNanos = 0 ↔ d.seconds = 0 ∧ d.nanos = 0 := by
  rw [totalNanos, ← UInt64.toNat_inj, ← UInt32.toNat_inj]
  show _ ↔ d.seconds.toNat = 0 ∧ d.nanos.toNat = 0
  omega

/-! ### In words of 128 bits -/

/-- The nanoseconds of a span, as words of 128 bits compute them. -/
def nanosWord (d : Duration) : BitVec 128 :=
  d.seconds.toBitVec.setWidth 128 * 1000000000#128 + d.nanos.toBitVec.setWidth 128

/-- The milliseconds of a span, as words of 128 bits compute them: the quotient, and one more where
there is a remainder. -/
def millisWord (d : Duration) : BitVec 128 :=
  if 0#128 < d.nanosWord % 1000000#128 then d.nanosWord / 1000000#128 + 1#128
  else d.nanosWord / 1000000#128

theorem totalNanos_lt (d : Duration) : d.totalNanos < UInt64.size * 1000000000 := by
  have hseconds := d.seconds.toNat_lt_size
  have hnanos := d.nanos_lt
  rw [totalNanos]
  omega

/-- The nanoseconds of the longest span fit. -/
theorem toNat_nanosWord (d : Duration) : d.nanosWord.toNat = d.totalNanos := by
  have hseconds := d.seconds.toNat_lt
  have hnanos := d.nanos_lt
  have hunit : (1000000000#128).toNat = 1000000000 := by decide
  rw [nanosWord, BitVec.toNat_add, BitVec.toNat_mul, BitVec.toNat_setWidth, BitVec.toNat_setWidth,
    UInt64.toNat_toBitVec, UInt32.toNat_toBitVec, hunit, totalNanos]
  omega

/-- One more than the quotient fits as well. -/
theorem toNat_millisWord (d : Duration) : d.millisWord.toNat = d.millisUp := by
  have hbound : d.totalNanos < 18446744073709551616 * 1000000000 := d.totalNanos_lt
  have hunit : (1000000#128).toNat = 1000000 := by decide
  have hquotient : (d.nanosWord / 1000000#128).toNat = d.totalNanos / 1000000 := by
    rw [BitVec.toNat_udiv, toNat_nanosWord, hunit]
  have hremainder : (d.nanosWord % 1000000#128).toNat = d.totalNanos % 1000000 := by
    rw [BitVec.toNat_umod, toNat_nanosWord, hunit]
  have hone : (1#128).toNat = 1 := by decide
  have hzero : (0#128).toNat = 0 := by decide
  rw [millisWord, millisUp]
  by_cases hrest : 0#128 < d.nanosWord % 1000000#128
  · rw [if_pos hrest, BitVec.toNat_add, hquotient, hone]
    rw [BitVec.lt_def, hzero, hremainder] at hrest
    omega
  · rw [if_neg hrest, hquotient]
    rw [BitVec.lt_def, hzero, hremainder] at hrest
    omega

end Duration

/-! ## The argument -/

namespace Wait

theorem argument_some (d : Duration) : argument (some d) = min d.millisUp maxArgument := by
  rw [argument, Duration.millisUp]
  omega

/-- The argument as a word of 32 bits: milliseconds that do not fit give way to the greatest
argument, and to wait without end all bits are set. -/
def argumentWord : Wait → BitVec 32
  | none => -1#32
  | some d =>
    if d.millisWord ≤ 2147483647#128 then d.millisWord.setWidth 32 else 2147483647#32

/-- No span is cut, and none comes out negative. -/
theorem toInt_argumentWord (t : Wait) : t.argumentWord.toInt = t.argument := by
  cases t with
  | none => rfl
  | some d =>
      have hmax : (2147483647#128).toNat = maxArgument := by decide
      rw [argument_some, argumentWord]
      by_cases hfits : d.millisWord ≤ 2147483647#128
      · rw [if_pos hfits]
        rw [BitVec.le_def, hmax, Duration.toNat_millisWord] at hfits
        have hword : (d.millisWord.setWidth 32).toNat = d.millisUp := by
          rw [BitVec.toNat_setWidth, Duration.toNat_millisWord]
          rw [maxArgument] at hfits
          omega
        rw [BitVec.toInt_eq_toNat_of_lt, hword]
        · omega
        · rw [hword]
          rw [maxArgument] at hfits
          omega
      · rw [if_neg hfits]
        rw [BitVec.le_def, hmax, Duration.toNat_millisWord] at hfits
        have hword : (2147483647#32).toInt = maxArgument := by decide
        rw [hword]
        omega

/-- An argument measures a span: it is the least whole number of milliseconds that is not shorter,
or the greatest argument if that is less. -/
structure RoundsUp (d : Duration) (a : Int) : Prop where
  least : ∃ ms : Nat, IsLeast {n : Nat | d.totalNanos ≤ n * 1000000} ms ∧ a = min ms maxArgument
  /-- Only a span of zero does not wait. -/
  zero : a = 0 ↔ d.seconds = 0 ∧ d.nanos = 0
  /-- No other span is waited for in a busy loop, and none without end. -/
  one_le : d.totalNanos ≠ 0 → 1 ≤ a
  /-- A wait is shorter than its span only where no argument is as long. -/
  not_shorter : d.totalNanos ≤ a * 1000000 ∨
    a = maxArgument ∧ (maxArgument * 1000000 : Int) < d.totalNanos
  /-- A wait is longer than its span by less than a millisecond. -/
  close : a * 1000000 < d.totalNanos + 1000000

theorem argument_eq_zero_iff {d : Duration} :
    argument (some d) = 0 ↔ d.seconds = 0 ∧ d.nanos = 0 := by
  rw [← Duration.totalNanos_eq_zero_iff, argument_some, Duration.millisUp, maxArgument]
  omega

theorem roundsUp_argument (d : Duration) : RoundsUp d (argument (some d)) where
  least := ⟨d.millisUp, d.isLeast_millisUp, argument_some d⟩
  zero := argument_eq_zero_iff
  one_le hd := by
    rw [argument_some, Duration.millisUp, maxArgument]
    omega
  not_shorter := by
    have hleast : d.totalNanos ≤ d.millisUp * 1000000 := d.isLeast_millisUp.1
    have hclose := d.millisUp_lt
    rw [argument_some]
    rcases Nat.le_total d.millisUp maxArgument with hfits | hlong
    · left
      omega
    · by_cases hexact : d.totalNanos ≤ maxArgument * 1000000
      · left
        omega
      · right
        omega
  close := by
    have hclose := d.millisUp_lt
    rw [argument_some]
    omega

theorem argument_eq_neg_one_iff {t : Wait} : t.argument = -1 ↔ t = none := by
  cases t with
  | none => exact iff_of_true rfl rfl
  | some d =>
      refine iff_of_false ?_ nofun
      rw [argument_some]
      omega

/-- Longer spans are not waited for less long. -/
theorem argument_mono {d d' : Duration} (hd : d.totalNanos ≤ d'.totalNanos) :
    argument (some d) ≤ argument (some d') := by
  have hmillis := Duration.millisUp_mono hd
  rw [argument_some, argument_some]
  omega

/-- A count of milliseconds is its own argument, cut at the greatest one. -/
theorem argument_ofMillis (ms : Int64) :
    (ofMillis ms).argument = if ms < 0 then -1 else min ms.toInt maxArgument := by
  rw [ofMillis]
  by_cases hneg : ms < 0
  · rw [if_pos hneg, if_pos hneg]
    rfl
  · rw [if_neg hneg, if_neg hneg, argument_some, Duration.millisUp_ofMillis]
    have hnonneg : 0 ≤ ms.toInt := by
      rw [Int64.lt_iff_toInt_lt] at hneg
      have hzero : (0 : Int64).toInt = 0 := rfl
      omega
    have hlt := ms.toInt_lt
    have hword : (UInt64.ofNat ms.toInt.toNat).toNat = ms.toInt.toNat := by
      rw [UInt64.toNat_ofNat', Nat.mod_eq_of_lt]
      omega
    rw [hword]
    omega

/-- **Waits.** An argument waits without end exactly where no span is given. The argument of a span
measures it, and longer spans never have smaller arguments; the nanoseconds and the milliseconds on
the way fit their words, and so does the argument. A signed count of milliseconds is waited for as
it stands, up to the greatest argument, and a negative one without end. -/
theorem argument_measures :
    (∀ t : Wait, t.argument = -1 ↔ t = none) ∧
    (∀ d : Duration, RoundsUp d (argument (some d))) ∧
    (∀ d d' : Duration, d.totalNanos ≤ d'.totalNanos → argument (some d) ≤ argument (some d')) ∧
    (∀ d : Duration, d.nanosWord.toNat = d.totalNanos ∧
      IsLeast {n : Nat | d.totalNanos ≤ n * 1000000} d.millisWord.toNat) ∧
    (∀ t : Wait, t.argumentWord.toInt = t.argument) ∧
    ∀ ms : Int64, (ofMillis ms).argument = if ms < 0 then -1 else min ms.toInt maxArgument := by
  refine ⟨fun t => argument_eq_neg_one_iff, roundsUp_argument, fun d d' => argument_mono, fun d => ?_,
    toInt_argumentWord, argument_ofMillis⟩
  rw [Duration.toNat_millisWord]
  exact ⟨d.toNat_nanosWord, d.isLeast_millisUp⟩

/-- The shortest span that is not zero. -/
def nanosecond : Duration := ⟨0, 1, by decide⟩

/-- The longest span. -/
def longest : Duration := ⟨18446744073709551615, 999999999, by decide⟩

/-- Neither the shortest nor the longest span turns into a busy loop or a wait without end, and
neither does the first count of milliseconds that has no argument of its own. -/
theorem argument_measures_of_extremes :
    1 ≤ argument (some nanosecond) ∧ argument (some nanosecond) ≤ argument (some longest) ∧
    argument (some longest) = 2147483647 ∧ (ofMillis 2147483648).argument = 2147483647 ∧
    (ofMillis (-9223372036854775808)).argument = -1 := by
  obtain ⟨-, hrounds, hmono, -, -, hmillis⟩ := argument_measures
  refine ⟨(hrounds nanosecond).one_le (by decide), hmono nanosecond longest (by decide), ?_, ?_, ?_⟩
  · have hlong : ¬ (longest.totalNanos : Int) ≤ 2147483647 * 1000000 := by decide
    obtain ⟨ms, -, hms⟩ := (hrounds longest).least
    rw [maxArgument] at hms
    rcases (hrounds longest).not_shorter with hreached | ⟨hcapped, -⟩
    · omega
    · exact hcapped
  · exact hmillis 2147483648
  · exact hmillis (-9223372036854775808)

end Wait

end AddressWatch
