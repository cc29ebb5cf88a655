/-
  AddressWatch.Proofs.Route.ErrorMessage

  Error messages in a datagram. A walk that ends with an error has read its messages up to one with
  a code other than zero, which is the last of its frames (`frames_of_error`); the error is the
  absolute value of that code, kept within 32 bits (`toInt_errorNumber`). Behind a message that
  does not end the walk, an acknowledgement for one, it goes on as if it had started there
  (`frames_of_split`).
-/

import Mathlib.Data.List.Basic
import AddressWatch.Proofs.Route.Truncation

namespace AddressWatch

/-! ## Codes -/

/-- A signed field of four bytes or fewer is a 32-bit number. -/
theorem Bytes.signed32_bounds {bytes : List UInt8} (hb : bytes.length ≤ 4) :
    -2147483648 ≤ signed32 (ofLittleEndian bytes) ∧
      signed32 (ofLittleEndian bytes) < 2147483648 := by
  have hlt : ofLittleEndian bytes < 4294967296 := by
    apply Nat.lt_of_lt_of_le (ofLittleEndian_lt bytes)
    rw [capacity, Nat.shiftLeft_eq, Nat.one_mul]
    have hbits : 8 * bytes.length ≤ 32 := by omega
    exact Nat.pow_le_pow_right Nat.two_pos hbits
  unfold signed32
  split <;> omega

namespace Route

theorem toInt_errorNumber (code : Int) :
    (errorNumber code).toInt = min (code.natAbs : Int) 2147483647 := by
  rw [errorNumber]
  apply Int32.toInt_ofInt_of_le <;> omega

/-- The number of an error other than zero is positive. -/
theorem errorNumber_pos {code : Int} (hcode : code ≠ 0) : 1 ≤ (errorNumber code).toInt := by
  have hpos : 0 < code.natAbs := Int.natAbs_pos.mpr hcode
  rw [toInt_errorNumber]
  omega

theorem align_add {n m : Nat} (hn : 4 ∣ n) : align (n + m) = n + align m := by
  unfold align
  omega

theorem dvd_align (n : Nat) : 4 ∣ align n := by
  unfold align
  omega

section

variable [OtherMessages]

/-- The code of an error message is a signed 32-bit number. -/
theorem decodeMessage?_error_bounds {bytes : List UInt8} {length : Nat} {code : Int}
    (hp : decodeMessage? bytes length = some (.error code)) :
    -2147483648 ≤ code ∧ code < 2147483648 := by
  rw [decodeMessage?] at hp
  unfold decodePayload? at hp
  split at hp
  · cases hp
  · cases hp
  · -- The only type of message that is read as an error.
    split at hp
    · cases hp
    · cases hp
      apply Bytes.signed32_bounds
      rw [List.length_take]
      omega
  · cases hp
  · obtain ⟨m, -, hm⟩ := Option.map_eq_some_iff.mp hp
    cases hm
  · obtain ⟨m, -, hm⟩ := Option.map_eq_some_iff.mp hp
    cases hm
  · split at hp
    · cases hp
    · obtain ⟨m, -, hm⟩ := Option.map_eq_some_iff.mp hp
      cases hm
  · split at hp
    · cases hp
    · split at hp <;> cases hp

theorem error_bounds_of_mem_frames {offset : Nat} {bytes : List UInt8} {f : Frame} {code : Int}
    (hf : f ∈ frames offset bytes) (hcode : f.payload = .error code) :
    -2147483648 ≤ code ∧ code < 2147483648 := by
  induction offset, bytes using walk_induction with
  | unreadable offset bytes hu =>
      rw [frames_of_unreadable hu] at hf
      cases hf
  | message offset bytes length payload hl hp ih =>
      rw [frames_of_message hl hp, List.mem_cons] at hf
      rcases hf with rfl | hf
      · rw [show payload = .error code from hcode] at hp
        exact decodeMessage?_error_bounds hp
      · split at hf
        · cases hf
        · exact ih hf

/-! ## Frames before and behind a frame -/

/-- A frame that ends the walk is the last one; behind any other the walk goes on as if it had
started where the length of that message, rounded up, ends. -/
theorem frames_of_split {offset : Nat} {bytes : List UInt8} {before after : List Frame} {f : Frame}
    (ho : 4 ∣ offset) (hf : frames offset bytes = before ++ f :: after) :
    after = if f.payload.ends then []
      else frames (align f.stop) (bytes.drop (align f.stop - offset)) := by
  -- Along the walk: the frame is the first one, or a frame of what follows the first message.
  induction offset, bytes using walk_induction generalizing before with
  | unreadable offset bytes hu =>
      rw [frames_of_unreadable hu] at hf
      cases before <;> cases hf
  | message offset bytes length payload hl hp ih =>
      rw [frames_of_message hl hp] at hf
      cases before with
      | nil =>
          obtain ⟨rfl, hrest⟩ := List.cons.inj hf
          show after = if payload.ends then []
            else frames (align (offset + length)) (bytes.drop (align (offset + length) - offset))
          rw [align_add ho, Nat.add_sub_cancel_left]
          exact hrest.symm
      | cons g before =>
          obtain ⟨-, hrest⟩ := List.cons.inj hf
          cases he : payload.ends with
          | true =>
              rw [he, if_pos rfl] at hrest
              cases before <;> cases hrest
          | false =>
              rw [he, if_neg Bool.false_ne_true] at hrest
              have hdvd : 4 ∣ offset + align length := Nat.dvd_add ho (dvd_align length)
              have hbehind : offset + align length < f.stop := by
                apply lt_stop_of_mem_frames
                rw [hrest]
                exact List.mem_append_right _ List.mem_cons_self
              have hstop := le_align f.stop
              have hdrop : align length + (align f.stop - (offset + align length)) =
                  align f.stop - offset := by
                omega
              rw [ih hdvd hrest, List.drop_drop, hdrop]

/-- Only the last frame can end the walk, so no message before it is an error. -/
theorem error?_of_mem_before {offset : Nat} {bytes : List UInt8} {before after : List Frame}
    {f g : Frame} (ho : 4 ∣ offset) (hf : frames offset bytes = before ++ f :: after)
    (hg : g ∈ before) : g.payload.error? = none := by
  obtain ⟨first, second, rfl⟩ := List.append_of_mem hg
  have hbehind : second ++ f :: after = if g.payload.ends then []
      else frames (align g.stop) (bytes.drop (align g.stop - offset)) := by
    apply frames_of_split ho
    rw [hf, List.append_assoc, List.cons_append]
  cases he : g.payload.ends with
  | true =>
      rw [he, if_pos rfl] at hbehind
      exact absurd hbehind (List.append_ne_nil_of_right_ne_nil _ (List.cons_ne_nil _ _))
  | false => exact error?_of_not_ends he

/-- The frames of a walk that ended with an error end with the message that reported it. -/
theorem frames_of_error {bytes : List UInt8} {errno : Int32}
    (he : (readDatagram bytes).error = some errno) :
    ∃ before stop code, frames 0 bytes = before ++ [⟨stop, .error code⟩] ∧ code ≠ 0 ∧
      errno = errorNumber code := by
  rw [readDatagram, error_walk, List.findSome?_eq_some_iff] at he
  obtain ⟨before, ⟨stop, payload⟩, after, hframes, herror, -⟩ := he
  cases payload with
  | error code =>
      obtain ⟨hcode, hnumber⟩ := Option.ite_none_left_eq_some.mp herror
      have hends : Payload.ends (.error code) = true := by
        simpa [Payload.ends] using hcode
      have hafter := frames_of_split ⟨0, rfl⟩ hframes
      rw [if_pos hends] at hafter
      refine ⟨before, stop, code, ?_, hcode, (Option.some.inj hnumber).symm⟩
      rw [hframes, hafter]
  | _ => cases herror

/-- The notices of a datagram with an error are those of the messages before the one that reported
it. -/
theorem notices_of_error {bytes : List UInt8} {before : List Frame} {stop : Nat} {code : Int}
    (hframes : frames 0 bytes = before ++ [⟨stop, .error code⟩]) :
    (readDatagram bytes).notices = before.filterMap Frame.notice? := by
  rw [readDatagram, notices_walk, hframes, List.filterMap_append]
  exact List.append_nil _

/-- An acknowledgement is passed over: what is read of a datagram is what is read before it and what
is read behind it. -/
theorem readDatagram_of_acknowledgement {bytes : List UInt8} {before after : List Frame}
    {stop : Nat} (hframes : frames 0 bytes = before ++ ⟨stop, .error 0⟩ :: after) :
    (readDatagram bytes).notices = before.filterMap Frame.notice? ++
        (walk (align stop) (bytes.drop (align stop))).notices ∧
      (readDatagram bytes).error = (walk (align stop) (bytes.drop (align stop))).error := by
  have hafter := frames_of_split ⟨0, rfl⟩ hframes
  have hgoes : after = frames (align stop) (bytes.drop (align stop)) := hafter
  have hbefore : ∀ f ∈ before, f.payload.error? = none :=
    fun _ hf => error?_of_mem_before ⟨0, rfl⟩ hframes hf
  rw [readDatagram, notices_walk, error_walk, notices_walk, error_walk, hframes, hgoes,
    List.filterMap_append, List.findSome?_append, List.findSome?_eq_none_iff.mpr hbefore]
  exact ⟨rfl, rfl⟩

end

end Route

end AddressWatch
