/-
  AddressWatch.Proofs.Route.Truncation

  What is read from a datagram that was cut. A message is read from the bytes that its header
  declares and from no others, so the frames of the first `k` bytes are the frames that end within
  them (`frames_take`): a cut only ever removes messages at the end.
-/

import AddressWatch.Proofs.Route.Walk

namespace AddressWatch

/-- A field that ends within the first `k` bytes does not depend on the others. -/
theorem Bytes.field_take {bytes : List UInt8} {k offset width : Nat} (hk : offset + width ≤ k) :
    field (bytes.take k) offset width = field bytes offset width := by
  rw [field, field, List.drop_take, List.take_take, Nat.min_eq_left (by omega)]

namespace Route

/-! ## Cutting a message -/

/-- A header declares the same length in the first `k` bytes, if the message ends within them; if
not, it is not all there. -/
theorem declaredLength?_take (bytes : List UInt8) (k : Nat) :
    declaredLength? (bytes.take k) = (declaredLength? bytes).filter (· ≤ k) := by
  apply Option.ext
  intro length
  rw [Option.filter_eq_some_iff, decide_eq_true_eq, declaredLength?_eq_some_iff,
    declaredLength?_eq_some_iff, List.length_take]
  by_cases hk : headerSize ≤ k
  · have hfield : Bytes.field (bytes.take k) 0 4 = Bytes.field bytes 0 4 := by
      apply Bytes.field_take
      simp only [headerSize] at hk
      omega
    rw [hfield]
    omega
  · -- A header that is not all there declares nothing, and no message is shorter than a header.
    constructor
    · intro hl
      omega
    · intro hl
      omega

section Messages

variable [OtherMessages]

/-- A message that ends within the first `k` bytes says the same in them. -/
theorem decodeMessage?_take {bytes : List UInt8} {k length : Nat} (hlow : headerSize ≤ length)
    (hk : length ≤ k) : decodeMessage? (bytes.take k) length = decodeMessage? bytes length := by
  have hfield : Bytes.field (bytes.take k) 4 2 = Bytes.field bytes 4 2 := by
    apply Bytes.field_take
    simp only [headerSize] at hlow
    omega
  rw [decodeMessage?, decodeMessage?, hfield, List.take_take, Nat.min_eq_left hk]

theorem Unreadable.take {bytes : List UInt8} (hu : Unreadable bytes) (k : Nat) :
    Unreadable (bytes.take k) := by
  intro length hl
  rw [declaredLength?_take, Option.filter_eq_some_iff, decide_eq_true_eq] at hl
  obtain ⟨hl, hk⟩ := hl
  rw [decodeMessage?_take (declaredLength?_bounds hl).1 hk]
  exact hu length hl

end Messages

/-! ## Cutting a datagram -/

/-- Those of frames in order that end by a place are the first ones. -/
theorem filter_stop_prefix {fs : List Frame} (hfs : fs.Pairwise fun f g => f.stop < g.stop)
    (place : Nat) : fs.filter (fun f => f.stop ≤ place) <+: fs := by
  induction fs with
  | nil => exact List.prefix_rfl
  | cons f rest ih =>
      obtain ⟨hfirst, hrest⟩ := List.pairwise_cons.mp hfs
      by_cases hf : f.stop ≤ place
      · rw [List.filter_cons_of_pos (by simpa using hf)]
        exact (List.prefix_cons_inj f).mpr (ih hrest)
      · have hnone : rest.filter (fun g => g.stop ≤ place) = [] := by
          rw [List.filter_eq_nil_iff]
          intro g hg
          have hlater := hfirst g hg
          rw [decide_eq_true_eq]
          omega
        rw [List.filter_cons_of_neg (by simpa using hf), hnone]
        exact List.nil_prefix

section Datagrams

variable [OtherMessages]

/-- Every frame ends behind the place where the walk starts. -/
theorem lt_stop_of_mem_frames {offset : Nat} {bytes : List UInt8} {f : Frame}
    (hf : f ∈ frames offset bytes) : offset < f.stop := by
  induction offset, bytes using walk_induction with
  | unreadable offset bytes hu =>
      rw [frames_of_unreadable hu] at hf
      cases hf
  | message offset bytes length payload hl hp ih =>
      have hbounds := declaredLength?_bounds hl
      have halign := le_align length
      simp only [headerSize] at hbounds
      rw [frames_of_message hl hp, List.mem_cons] at hf
      rcases hf with rfl | hf
      · show offset < offset + length
        omega
      · split at hf
        · cases hf
        · have hlater := ih hf
          omega

/-- The frames of the first `k` bytes are the frames that end within them. -/
theorem frames_take (offset : Nat) (bytes : List UInt8) (k : Nat) :
    frames offset (bytes.take k) =
      (frames offset bytes).filter fun f => f.stop ≤ offset + k := by
  -- Along the walk over the whole: the cut stays where it is, so it comes nearer by each message.
  induction offset, bytes using walk_induction generalizing k with
  | unreadable offset bytes hu =>
      rw [frames_of_unreadable hu, frames_of_unreadable (hu.take k)]
      rfl
  | message offset bytes length payload hl hp ih =>
      have halign := le_align length
      by_cases hk : length ≤ k
      · have hl' : declaredLength? (bytes.take k) = some length := by
          rw [declaredLength?_take, hl, Option.filter_some, if_pos (by simpa using hk)]
        have hp' : decodeMessage? (bytes.take k) length = some payload := by
          rw [decodeMessage?_take (declaredLength?_bounds hl).1 hk, hp]
        rw [frames_of_message hl hp, frames_of_message hl' hp',
          List.filter_cons_of_pos (by simpa using hk)]
        congr 1
        cases payload.ends with
        | true => rfl
        | false =>
            rw [if_neg (by decide), if_neg (by decide), List.drop_take, ih]
            -- A cut in the padding of a message leaves nothing of what follows it.
            apply List.filter_congr
            intro f hf
            have hstop := lt_stop_of_mem_frames hf
            rw [decide_eq_decide]
            omega
      · -- The message is cut, so the walk stops here; all later frames end behind the cut, too.
        have hcut : Unreadable (bytes.take k) := by
          intro l hl'
          rw [declaredLength?_take, hl, Option.filter_some, if_neg (by simpa using hk)] at hl'
          cases hl'
        rw [frames_of_unreadable hcut, eq_comm, List.filter_eq_nil_iff]
        intro f hf
        rw [frames_of_message hl hp, List.mem_cons] at hf
        rw [decide_eq_true_eq]
        rcases hf with rfl | hf
        · show ¬ offset + length ≤ offset + k
          omega
        · split at hf
          · cases hf
          · have hstop := lt_stop_of_mem_frames hf
            omega

/-- Frames end one behind the other. -/
theorem pairwise_frames (offset : Nat) (bytes : List UInt8) :
    (frames offset bytes).Pairwise fun f g => f.stop < g.stop := by
  induction offset, bytes using walk_induction with
  | unreadable offset bytes hu =>
      rw [frames_of_unreadable hu]
      exact List.Pairwise.nil
  | message offset bytes length payload hl hp ih =>
      rw [frames_of_message hl hp]
      split
      · exact List.pairwise_singleton _ _
      · refine List.pairwise_cons.mpr ⟨?_, ih⟩
        intro f hf
        have hstop := lt_stop_of_mem_frames hf
        have halign := le_align length
        show offset + length < f.stop
        omega

theorem frames_take_prefix (offset : Nat) (bytes : List UInt8) (k : Nat) :
    frames offset (bytes.take k) <+: frames offset bytes := by
  rw [frames_take]
  exact filter_stop_prefix (pairwise_frames offset bytes) _

end Datagrams

end Route

end AddressWatch
