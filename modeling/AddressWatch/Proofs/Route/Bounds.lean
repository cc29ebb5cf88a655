/-
  AddressWatch.Proofs.Route.Bounds

  The walk over a datagram as a loop over a buffer whose offsets and lengths are words of the machine
  (`loop`). The step from one message to the next is computed from a length that the datagram itself
  declares. As only a message that lies within the buffer is passed, the step is at least a header,
  no word overflows, and the loop ends by itself after a number of turns that the size of the buffer
  bounds, with what the walk reads (`walk_bounded`).
-/

import Mathlib.Data.Nat.Bitwise
import AddressWatch.Proofs.Route.Walk

namespace AddressWatch.Route

/-! ## Rounding up in words -/

/-- `n` rounded up to a multiple of four, as words compute it: four less one are added, and the bits
of four less one are cleared. -/
def alignWord {w : Nat} (n : BitVec w) : BitVec w := (n + 4#w - 1#w) &&& ~~~(4#w - 1#w)

/-- To clear the two lowest bits is to round down. -/
theorem toNat_clear {w : Nat} (x : BitVec w) {mask : BitVec w} (hmask : mask.toNat = 3) :
    (x &&& ~~~mask).toNat = x.toNat / 4 * 4 := by
  have hshifts : x.toNat / 4 * 4 = x.toNat >>> 2 <<< 2 := by
    rw [Nat.shiftRight_eq_div_pow, Nat.shiftLeft_eq]
  apply Nat.eq_of_testBit_eq
  intro i
  have hbit : mask.getLsbD i = decide (i < 2) := by
    rw [← BitVec.testBit_toNat, hmask]
    exact Nat.testBit_two_pow_sub_one 2 i
  rw [hshifts, Nat.testBit_shiftLeft, Nat.testBit_shiftRight, BitVec.testBit_toNat,
    BitVec.testBit_toNat, BitVec.getLsbD_and, BitVec.getLsbD_not, hbit]
  by_cases hi : i < 2
  · have hlow : ¬ 2 ≤ i := by omega
    simp [hi, hlow]
  · -- A bit above the mask stays, and there is none above the word.
    have hhigh : 2 ≤ i := by omega
    have hback : 2 + (i - 2) = i := by omega
    have hword : x.getLsbD i = true → i < w := BitVec.lt_of_getLsbD
    rw [hback]
    cases hx : x.getLsbD i with
    | false => simp
    | true => simp [hi, hhigh, hword hx]

/-- Where four can be added without a carry, the word is the number rounded up. -/
theorem toNat_alignWord {w : Nat} {n : BitVec w} (hn : n.toNat + 4 < 2 ^ w) :
    (alignWord n).toNat = align n.toNat := by
  have hone : (1#w).toNat = 1 := by
    rw [BitVec.toNat_ofNat, Nat.mod_eq_of_lt (by omega)]
  have hfour : (4#w).toNat = 4 := by
    rw [BitVec.toNat_ofNat, Nat.mod_eq_of_lt (by omega)]
  have hmask : (4#w - 1#w).toNat = 3 := by
    rw [BitVec.toNat_sub_of_le (by rw [BitVec.le_def]; omega), hfour, hone]
  have hsum : (n + 4#w).toNat = n.toNat + 4 := by
    rw [BitVec.toNat_add, hfour, Nat.mod_eq_of_lt hn]
  have hraised : (n + 4#w - 1#w).toNat = n.toNat + 3 := by
    rw [BitVec.toNat_sub_of_le (by rw [BitVec.le_def]; omega), hsum, hone]
    rfl
  rw [alignWord, toNat_clear _ hmask, hraised, align]

/-! ## The loop -/

/-- What one turn of the loop comes to. -/
inductive Turn (w : Nat) where
  /-- The message would begin outside the buffer. -/
  | outside
  /-- The loop ends, with what is read last. -/
  | ended (last : Reading)
  /-- The loop goes on at another offset. -/
  | passed (found : Option Finding) (next : BitVec w)

/-- One turn of the loop, at an offset of the buffer. A length of zero would end the loop. -/
def turn [OtherMessages] {w : Nat} (buffer : List UInt8) (offset : BitVec w) : Turn w :=
  if buffer.length < offset.toNat then .outside
  else
    let bytes := buffer.drop offset.toNat
    match declaredLength? bytes with
    | none => .ended ⟨[.unreadable offset.toNat], none⟩
    | some length =>
      match decodeMessage? bytes length with
      | none => .ended ⟨[.unreadable offset.toNat], none⟩
      | some payload =>
        if payload.ends then .ended ⟨[], payload.error?⟩
        else if BitVec.ofNat w length = 0#w then .ended ⟨payload.finding?.toList, none⟩
        else .passed payload.finding? (offset + alignWord (BitVec.ofNat w length))

/-- The loop over a buffer from an offset on. There is no result if it has not ended after the given
number of turns, or if it leaves the buffer. -/
def loop [OtherMessages] {w : Nat} (buffer : List UInt8) (turns : Nat) (offset : BitVec w) :
    Option Reading :=
  if buffer.length ≤ offset.toNat then some ⟨[], none⟩
  else
    match turns with
    | 0 => none
    | turns + 1 =>
      match turn buffer offset with
      | .outside => none
      | .ended last => some last
      | .passed found next => (loop buffer turns next).map (Reading.afterOption found)

/-- After so many turns the loop stands at an offset. -/
inductive Arrives [OtherMessages] {w : Nat} (buffer : List UInt8) : Nat → BitVec w → Prop where
  | start : Arrives buffer 0 0#w
  | next {turns : Nat} {offset offset' : BitVec w} {found : Option Finding}
      (harrives : Arrives buffer turns offset) (hinside : offset.toNat < buffer.length)
      (hturn : turn buffer offset = .passed found offset') : Arrives buffer (turns + 1) offset'

/-- The length that a header at an offset of the buffer declares. -/
def lengthAt (buffer : List UInt8) (offset : Nat) : Nat := Bytes.field buffer offset 4

/-- The loop goes from one offset on to another as it should: the message between them lies within
the buffer, neither its length nor a sum overflows, and the step is its length rounded up. -/
structure Advances {w : Nat} (buffer : List UInt8) (offset offset' : BitVec w) : Prop where
  inside : offset.toNat + lengthAt buffer offset.toNat ≤ buffer.length
  length_fits : lengthAt buffer offset.toNat + 4 < 2 ^ w
  next_fits : offset.toNat + (alignWord (BitVec.ofNat w (lengthAt buffer offset.toNat))).toNat < 2 ^ w
  step : ∃ step, offset'.toNat = offset.toNat + step ∧ 16 ≤ step ∧ 4 ∣ step ∧
    lengthAt buffer offset.toNat ≤ step ∧ step < lengthAt buffer offset.toNat + 4

/-! ## One turn -/

theorem lengthAt_eq {buffer : List UInt8} {offset length : Nat}
    (hl : declaredLength? (buffer.drop offset) = some length) : lengthAt buffer offset = length := by
  obtain ⟨-, hfield, -⟩ := declaredLength?_eq_some_iff.mp hl
  rw [lengthAt, ← hfield, Bytes.field, Bytes.field, List.drop_drop]
  rfl

theorem walk_nil [OtherMessages] (offset : Nat) : walk offset [] = ⟨[], none⟩ := by
  rw [walk]
  rfl

section

variable {w : Nat} {buffer : List UInt8} {offset : BitVec w} {length : Nat} {payload : Payload}

theorem turn_of_unreadable [OtherMessages] (hinside : offset.toNat < buffer.length)
    (hu : Unreadable (buffer.drop offset.toNat)) :
    turn buffer offset = .ended ⟨[.unreadable offset.toNat], none⟩ := by
  rw [turn, if_neg (by omega)]
  cases hl : declaredLength? (buffer.drop offset.toNat) with
  | none => simp only [hl]
  | some length => simp only [hl, hu length hl]

theorem walk_of_unreadable_inside [OtherMessages] (hinside : offset.toNat < buffer.length)
    (hu : Unreadable (buffer.drop offset.toNat)) :
    walk offset.toNat (buffer.drop offset.toNat) = ⟨[.unreadable offset.toNat], none⟩ := by
  have hsome : (buffer.drop offset.toNat).isEmpty = false := by
    rw [List.isEmpty_eq_false_iff, Ne, List.drop_eq_nil_iff]
    omega
  rw [walk, hsome, if_neg Bool.false_ne_true]
  split
  · rfl
  · next length hl => rw [hu length hl]

variable (hfits : buffer.length + 4 < 2 ^ w) (hinside : offset.toNat < buffer.length)
  (hl : declaredLength? (buffer.drop offset.toNat) = some length)

include hfits hinside hl

/-- A declared length is not cut in a word. -/
theorem toNat_length : (BitVec.ofNat w length).toNat = length := by
  have hbounds := declaredLength?_bounds hl
  rw [List.length_drop] at hbounds
  rw [BitVec.toNat_ofNat, Nat.mod_eq_of_lt (by omega)]

theorem toNat_next :
    (offset + alignWord (BitVec.ofNat w length)).toNat = offset.toNat + align length := by
  have hbounds := declaredLength?_bounds hl
  rw [List.length_drop] at hbounds
  have hlength := toNat_length hfits hinside hl
  rw [BitVec.toNat_add, toNat_alignWord (by omega), hlength, align, Nat.mod_eq_of_lt (by omega)]

theorem turn_of_message [OtherMessages]
    (hp : decodeMessage? (buffer.drop offset.toNat) length = some payload) :
    turn buffer offset =
      if payload.ends then .ended ⟨[], payload.error?⟩
      else .passed payload.finding? (offset + alignWord (BitVec.ofNat w length)) := by
  have hbounds := declaredLength?_bounds hl
  have hnonzero : BitVec.ofNat w length ≠ 0#w := by
    intro hzero
    have hlength := toNat_length hfits hinside hl
    rw [hzero, BitVec.toNat_zero] at hlength
    rw [headerSize] at hbounds
    omega
  rw [turn, if_neg (by omega)]
  simp only [hl, hp, if_neg hnonzero]

theorem advances_of_message : Advances buffer offset (offset + alignWord (BitVec.ofNat w length)) := by
  have hbounds := declaredLength?_bounds hl
  rw [List.length_drop, headerSize] at hbounds
  have hnext := toNat_next hfits hinside hl
  have hlength := toNat_length hfits hinside hl
  have hdeclared := lengthAt_eq hl
  constructor
  · omega
  · omega
  · rw [hdeclared, toNat_alignWord (by omega), hlength, align]
    omega
  · refine ⟨align length, hnext, ?_, ?_, ?_, ?_⟩ <;> rw [align] <;> omega

end

/-! ## All turns -/

section

variable [OtherMessages] {w : Nat} {buffer : List UInt8} (hfits : buffer.length + 4 < 2 ^ w)

include hfits

/-- Either the loop ends with what is read from the rest, or it passes the message that is read
first. -/
theorem turn_cases {offset : BitVec w} (hinside : offset.toNat < buffer.length) :
    turn buffer offset = .ended (walk offset.toNat (buffer.drop offset.toNat)) ∨
    ∃ found offset', turn buffer offset = .passed found offset' ∧ Advances buffer offset offset' ∧
      walk offset.toNat (buffer.drop offset.toNat) =
        (walk offset'.toNat (buffer.drop offset'.toNat)).afterOption found := by
  rcases unreadable_or_message (buffer.drop offset.toNat) with hu | ⟨length, payload, hl, hp⟩
  · rw [turn_of_unreadable hinside hu, walk_of_unreadable_inside hinside hu]
    exact .inl rfl
  · rw [turn_of_message hfits hinside hl hp, walk_of_message hl hp, Payload.resume]
    cases payload.ends with
    | true => exact .inl rfl
    | false =>
        refine .inr ⟨payload.finding?, _, rfl, advances_of_message hfits hinside hl, ?_⟩
        rw [toNat_next hfits hinside hl, List.drop_drop]
        rfl

theorem turn_ne_outside {offset : BitVec w} (hinside : offset.toNat < buffer.length) :
    turn buffer offset ≠ .outside := by
  rcases turn_cases hfits hinside with hended | ⟨found, offset', hpassed, -⟩
  · rw [hended]
    nofun
  · rw [hpassed]
    nofun

theorem advances_of_turn {offset offset' : BitVec w} {found : Option Finding}
    (hinside : offset.toNat < buffer.length) (hturn : turn buffer offset = .passed found offset') :
    Advances buffer offset offset' := by
  rcases turn_cases hfits hinside with hended | ⟨found, offset', hpassed, hadvances, -⟩
  · rw [hended] at hturn
    cases hturn
  · rw [hpassed] at hturn
    cases hturn
    exact hadvances

/-- Every turn takes sixteen bytes of the buffer, and the last one three bytes behind it at most. -/
theorem Arrives.bounds {turns : Nat} {offset : BitVec w} (harrives : Arrives buffer turns offset) :
    16 * turns ≤ offset.toNat ∧ offset.toNat ≤ buffer.length + 3 := by
  induction harrives with
  | start =>
      rw [BitVec.toNat_zero]
      omega
  | next _ hinside hturn ih =>
      have hadvances := advances_of_turn hfits hinside hturn
      obtain ⟨step, hnext, hleast, -, -, hmost⟩ := hadvances.step
      have hmessage := hadvances.inside
      omega

/-- With a turn for every sixteen bytes that are left, the loop ends with what the walk reads. -/
theorem loop_eq_walk {turns : Nat} {offset : BitVec w}
    (hturns : buffer.length ≤ offset.toNat + 16 * turns) :
    loop buffer turns offset = some (walk offset.toNat (buffer.drop offset.toNat)) := by
  induction turns generalizing offset with
  | zero =>
      have hout : buffer.length ≤ offset.toNat := by omega
      rw [loop, if_pos hout, List.drop_eq_nil_of_le hout, walk_nil]
  | succ turns ih =>
      by_cases hout : buffer.length ≤ offset.toNat
      · rw [loop, if_pos hout, List.drop_eq_nil_of_le hout, walk_nil]
      · have hinside : offset.toNat < buffer.length := by omega
        rw [loop, if_neg hout]
        rcases turn_cases hfits hinside with hended | ⟨found, offset', hpassed, hadvances, hwalk⟩
        · simp only [hended]
        · obtain ⟨step, hnext, hleast, -⟩ := hadvances.step
          have hrest : buffer.length ≤ offset'.toNat + 16 * turns := by omega
          simp only [hpassed, hwalk, ih hrest, Option.map_some]

end

/-- **The walk ends within bounds.** In words that count a little further than the buffer, as those
that address it always do, since no buffer takes more than half of the memory, the loop ends with
what is read from the datagram, after at most one turn for every sixteen bytes or part of them.
Wherever it arrives, the next message begins within the buffer, or there is none and the
padding of the last one ends three bytes behind the buffer at most; and from one message it goes on
to the next by the declared length rounded up, which nothing on the way cuts. -/
theorem walk_bounded [OtherMessages] {w : Nat} {buffer : List UInt8}
    (hfits : buffer.length + 4 < 2 ^ w) :
    loop buffer ((buffer.length + 15) / 16) 0#w = some (readDatagram buffer) ∧
    ∀ (turns : Nat) (offset : BitVec w), Arrives buffer turns offset →
      offset.toNat ≤ buffer.length + 3 ∧
      (offset.toNat < buffer.length →
        turns < (buffer.length + 15) / 16 ∧ turn buffer offset ≠ .outside ∧
        ∀ found offset', turn buffer offset = .passed found offset' →
          Advances buffer offset offset') := by
  constructor
  · rw [loop_eq_walk hfits (by rw [BitVec.toNat_zero]; omega), BitVec.toNat_zero, List.drop_zero,
      readDatagram]
  · intro turns offset harrives
    obtain ⟨hleast, hmost⟩ := harrives.bounds hfits
    refine ⟨hmost, fun hinside => ⟨by omega, turn_ne_outside hfits hinside, fun found offset' => ?_⟩⟩
    exact advances_of_turn hfits hinside

/-- A message of seventeen bytes without the padding that would follow it. -/
def unpadded : List UInt8 := encodeMessage { type := 1 } [0]

section

attribute [local instance] OtherMessages.framing

/-- The padding that is not there leads the loop three bytes behind the buffer, where it ends. -/
theorem walk_bounded_of_unpadded :
    loop unpadded 2 0#32 = some (readDatagram unpadded) ∧ Advances unpadded 0#32 20#32 ∧
    Arrives unpadded 1 20#32 ∧ (20#32).toNat ≤ unpadded.length + 3 := by
  have hturn : turn unpadded 0#32 = .passed none 20#32 := rfl
  have hfits : unpadded.length + 4 < 2 ^ 32 := by decide
  have hinside : (0#32).toNat < unpadded.length := by decide
  have harrives : Arrives unpadded 1 20#32 := .next .start hinside hturn
  obtain ⟨hends, hall⟩ := walk_bounded hfits
  obtain ⟨-, hstart⟩ := hall 0 0#32 .start
  obtain ⟨-, -, hadvances⟩ := hstart hinside
  exact ⟨hends, hadvances none 20#32 hturn, harrives, (hall 1 20#32 harrives).1⟩

end

end AddressWatch.Route
