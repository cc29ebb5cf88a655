/-
  AddressWatch.Proofs.Route.Walk

  The walk over a datagram as a list of frames: the messages it reads, each with the place where
  its declared length ends (`frames`). The notices of a reading are those of its frames in order,
  and its error is that of the first frame that has one (`notices_walk`, `error_walk`), so what
  holds of the frames of a datagram holds of what is read from it.
-/

import Mathlib.Data.List.Basic
import AddressWatch.Route.Datagram

namespace AddressWatch.Route

/-! ## What a walk does with a message -/

namespace Payload

/-- The finding that a message adds to the walk. -/
def finding? : Payload → Option Finding
  | .newAddress m => some (.ofMessage .added m)
  | .delAddress m => some (.ofMessage .removed m)
  | _ => none

/-- The number of the error that a message reports. -/
def error? : Payload → Option Int32
  | .error code => if code = 0 then none else some (errorNumber code)
  | _ => none

/-- Whether the walk ends at a message. -/
def ends : Payload → Bool
  | .done => true
  | .error code => code ≠ 0
  | _ => false

end Payload

/-- The reading with a finding in front, if there is one. -/
def Reading.afterOption : Option Finding → Reading → Reading
  | none, r => r
  | some f, r => r.after f

/-- What is read from a message and, unless it ends the walk, from what follows it. -/
def Payload.resume (p : Payload) (rest : Reading) : Reading :=
  if p.ends then ⟨[], p.error?⟩ else rest.afterOption p.finding?

/-- A length is declared by a whole header, is at least that of a header, and is there. -/
theorem declaredLength?_eq_some_iff {bytes : List UInt8} {length : Nat} :
    declaredLength? bytes = some length ↔
      headerSize ≤ bytes.length ∧ Bytes.field bytes 0 4 = length ∧ headerSize ≤ length ∧
        length ≤ bytes.length := by
  by_cases hshort : bytes.length < headerSize
  · rw [declaredLength?, if_pos hshort]
    constructor
    · intro hl
      cases hl
    · intro hl
      omega
  · rw [declaredLength?, if_neg hshort]
    by_cases hbad : Bytes.field bytes 0 4 < headerSize ∨ bytes.length < Bytes.field bytes 0 4
    · simp only [if_pos hbad]
      constructor
      · intro hl
        cases hl
      · intro hl
        omega
    · simp only [if_neg hbad, Option.some.injEq]
      omega

theorem isEmpty_of_declaredLength? {bytes : List UInt8} {length : Nat}
    (hl : declaredLength? bytes = some length) : bytes.isEmpty = false := by
  cases bytes with
  | nil => cases hl
  | cons b rest => rfl

section Walk

variable [OtherMessages]

/-- No message can be read at the start of the bytes. -/
def Unreadable (bytes : List UInt8) : Prop :=
  ∀ length, declaredLength? bytes = some length → decodeMessage? bytes length = none

theorem unreadable_or_message (bytes : List UInt8) :
    Unreadable bytes ∨ ∃ length payload, declaredLength? bytes = some length ∧
      decodeMessage? bytes length = some payload := by
  by_cases hu : Unreadable bytes
  · exact .inl hu
  · obtain ⟨length, hu⟩ := not_forall.mp hu
    obtain ⟨hl, hp⟩ := Classical.not_imp.mp hu
    obtain ⟨payload, hp⟩ := Option.ne_none_iff_exists'.mp hp
    exact .inr ⟨length, payload, hl, hp⟩

/-- After a message the walk goes on where its declared length, rounded up, ends. -/
theorem walk_of_message {offset : Nat} {bytes : List UInt8} {length : Nat} {payload : Payload}
    (hl : declaredLength? bytes = some length) (hp : decodeMessage? bytes length = some payload) :
    walk offset bytes =
      payload.resume (walk (offset + align length) (bytes.drop (align length))) := by
  rw [walk, isEmpty_of_declaredLength? hl, if_neg (by decide)]
  split
  · next hnone =>
      rw [hl] at hnone
      cases hnone
  · next length' hsome =>
      obtain rfl : length = length' := Option.some.inj (hl.symm.trans hsome)
      rw [hp]
      cases payload with
      | done => rfl
      | error code =>
          -- Zero acknowledges a request, and the walk goes on.
          by_cases hcode : code = 0
          · simp [Payload.resume, Payload.ends, Payload.finding?, Reading.afterOption, hcode]
          · simp [Payload.resume, Payload.ends, Payload.error?, hcode]
      | newAddress m => rfl
      | delAddress m => rfl
      | unrelated => rfl

/-- Where no message can be read, nothing is found but that. -/
theorem walk_of_unreadable {offset : Nat} {bytes : List UInt8} (hu : Unreadable bytes) :
    (walk offset bytes).notices = [] ∧ (walk offset bytes).error = none := by
  rw [walk]
  split
  · exact ⟨rfl, rfl⟩
  · split
    · exact ⟨rfl, rfl⟩
    · next length hl =>
        rw [hu length hl]
        exact ⟨rfl, rfl⟩

/-- Nothing is found where there are no bytes. -/
theorem readDatagram_nil : readDatagram [] = ⟨[], none⟩ := by
  rw [readDatagram, walk]
  rfl

/-- Induction along a walk: from what follows a message to the message. -/
theorem walk_induction {P : Nat → List UInt8 → Prop}
    (unreadable : ∀ offset bytes, Unreadable bytes → P offset bytes)
    (message : ∀ offset bytes length payload, declaredLength? bytes = some length →
      decodeMessage? bytes length = some payload →
      P (offset + align length) (bytes.drop (align length)) → P offset bytes)
    (offset : Nat) (bytes : List UInt8) : P offset bytes := by
  -- On the number of bytes, of which every message takes at least its header.
  generalize hn : bytes.length = n
  induction n using Nat.strongRecOn generalizing offset bytes with
  | _ n ih =>
      rcases unreadable_or_message bytes with hu | ⟨length, payload, hl, hp⟩
      · exact unreadable offset bytes hu
      · refine message offset bytes length payload hl hp (ih _ ?_ _ _ rfl)
        have hbounds := declaredLength?_bounds hl
        have halign := le_align length
        rw [List.length_drop]
        simp only [headerSize] at hbounds
        omega

end Walk

/-! ## Frames -/

/-- A message that a walk reads. -/
structure Frame where
  /-- Where the length that its header declares ends. -/
  stop : Nat
  payload : Payload
  deriving DecidableEq

/-- The notice of a message, if it is one about an address and names it. -/
def Frame.notice? (f : Frame) : Option Notice :=
  match f.payload.finding? with
  | some (.notice n) => some n
  | _ => none

theorem notices_resume {p : Payload} {rest : Reading} (he : p.ends = false) (stop : Nat) :
    (p.resume rest).notices = (Frame.notice? ⟨stop, p⟩).toList ++ rest.notices := by
  rw [Payload.resume, he, if_neg (by decide), Frame.notice?]
  cases hf : p.finding? with
  | none => rfl
  | some f =>
      cases f with
      | notice n => rfl
      | withoutAddress => rfl
      | unreadable offset => rfl

/-- A message that ends the walk gives no notice. -/
theorem finding?_of_ends {p : Payload} (he : p.ends = true) : p.finding? = none := by
  cases p <;> first | rfl | cases he

/-- A message that does not end the walk reports no error. -/
theorem error?_of_not_ends {p : Payload} (he : p.ends = false) : p.error? = none := by
  cases p with
  | error code => simpa [Payload.ends, Payload.error?] using he
  | _ => rfl

section Frames

variable [OtherMessages]

/-- The messages that the walk over `bytes`, which stand at `offset`, reads, up to the one that ends
it. -/
def frames (offset : Nat) (bytes : List UInt8) : List Frame :=
  match _h : declaredLength? bytes with
  | none => []
  | some length =>
    match decodeMessage? bytes length with
    | none => []
    | some payload =>
      ⟨offset + length, payload⟩ ::
        if payload.ends then [] else frames (offset + align length) (bytes.drop (align length))
termination_by bytes.length
decreasing_by
  have h₁ := declaredLength?_bounds _h
  have h₂ := le_align length
  simp only [headerSize] at h₁
  simp only [List.length_drop]
  omega

theorem frames_of_message {offset : Nat} {bytes : List UInt8} {length : Nat} {payload : Payload}
    (hl : declaredLength? bytes = some length) (hp : decodeMessage? bytes length = some payload) :
    frames offset bytes =
      ⟨offset + length, payload⟩ ::
        if payload.ends then [] else frames (offset + align length) (bytes.drop (align length)) := by
  rw [frames]
  split
  · next hnone =>
      rw [hl] at hnone
      cases hnone
  · next length' hsome =>
      obtain rfl : length = length' := Option.some.inj (hl.symm.trans hsome)
      rw [hp]

theorem frames_of_unreadable {offset : Nat} {bytes : List UInt8} (hu : Unreadable bytes) :
    frames offset bytes = [] := by
  rw [frames]
  split
  · rfl
  · next length hl => rw [hu length hl]

/-- The notices of a walk are those of its frames, in order. -/
theorem notices_walk (offset : Nat) (bytes : List UInt8) :
    (walk offset bytes).notices = (frames offset bytes).filterMap Frame.notice? := by
  induction offset, bytes using walk_induction with
  | unreadable offset bytes hu =>
      rw [(walk_of_unreadable hu).1, frames_of_unreadable hu]
      rfl
  | message offset bytes length payload hl hp ih =>
      rw [walk_of_message hl hp, frames_of_message hl hp]
      cases he : payload.ends with
      | true =>
          have hnone : Frame.notice? ⟨offset + length, payload⟩ = none := by
            rw [Frame.notice?, finding?_of_ends he]
          rw [Payload.resume, he, if_pos rfl, if_pos rfl, List.filterMap_cons_none hnone]
          rfl
      | false =>
          rw [notices_resume he (offset + length), ih, if_neg (by decide), List.filterMap_cons]
          cases Frame.notice? ⟨offset + length, payload⟩ <;> rfl

/-- The error of a walk is that of the first frame that reports one. -/
theorem error_walk (offset : Nat) (bytes : List UInt8) :
    (walk offset bytes).error = (frames offset bytes).findSome? fun f => f.payload.error? := by
  induction offset, bytes using walk_induction with
  | unreadable offset bytes hu =>
      rw [(walk_of_unreadable hu).2, frames_of_unreadable hu]
      rfl
  | message offset bytes length payload hl hp ih =>
      rw [walk_of_message hl hp, frames_of_message hl hp, List.findSome?_cons, Payload.resume]
      cases he : payload.ends with
      | true => cases payload.error? <;> rfl
      | false =>
          -- A message that the walk goes on after has no error itself and hides none.
          rw [error?_of_not_ends he, if_neg (by decide), if_neg (by decide)]
          have hafter : ∀ (f : Option Finding) (r : Reading), (r.afterOption f).error = r.error := by
            intro f r
            cases f <;> rfl
          rw [hafter]
          exact ih

end Frames

end AddressWatch.Route
