/-
  AddressWatch.Proofs.Route.Insertion

  Messages about something else in a datagram. A framed message fills the multiple of four bytes
  behind its declared length, so that the next one starts where its bytes end. Where in a datagram
  such a message is inserted, and what it is about, makes no difference if it can be read and is
  about something else; one of a known type whose payload cannot be read ends the reading there
  (`readDatagram_of_inserted`).
-/

import Mathlib.Data.List.Basic
import AddressWatch.Proofs.Route.Walk

namespace AddressWatch

/-- A field that is all in the front does not depend on the rest. -/
theorem Bytes.field_append_left {front : List UInt8} {offset width : Nat}
    (hfront : offset + width ≤ front.length) (rest : List UInt8) :
    field (front ++ rest) offset width = field front offset width := by
  have hdrop : (front ++ rest).drop offset = front.drop offset ++ rest :=
    List.drop_append_of_le_length (by omega)
  have htake : (front.drop offset ++ rest).take width = (front.drop offset).take width := by
    apply List.take_append_of_le_length
    rw [List.length_drop]
    omega
  rw [field, field, hdrop, htake]

namespace Route

/-! ## Readings that say the same -/

/-- The readings have the same notices in the same order, and the same error. They may differ in
what else they came upon. -/
structure Reading.Agrees (r r' : Reading) : Prop where
  notices : r.notices = r'.notices
  error : r.error = r'.error

/-- Behind the same message, readings that say the same go on to do so. -/
theorem Payload.resume_agrees (p : Payload) {rest rest' : Reading} (h : rest.Agrees rest') :
    (p.resume rest).Agrees (p.resume rest') := by
  rw [resume, resume]
  cases p.ends with
  | true => exact ⟨rfl, rfl⟩
  | false =>
      cases p.finding? with
      | none => exact h
      | some f =>
          refine ⟨?_, h.error⟩
          have hnotices := h.notices
          rw [Reading.notices] at hnotices ⊢
          show List.filterMap _ (f :: rest.findings) = List.filterMap _ (f :: rest'.findings)
          rw [List.filterMap_cons, List.filterMap_cons, hnotices]
          rfl

section Walk

variable [OtherMessages]

/-- Where no message can be read, the readings have nothing to say. -/
theorem agrees_of_unreadable {bytes bytes' : List UInt8} (hu : Unreadable bytes)
    (hu' : Unreadable bytes') (offset offset' : Nat) :
    (walk offset bytes).Agrees (walk offset' bytes') := by
  obtain ⟨hnotices, herror⟩ := @walk_of_unreadable _ offset bytes hu
  obtain ⟨hnotices', herror'⟩ := @walk_of_unreadable _ offset' bytes' hu'
  exact ⟨hnotices.trans hnotices'.symm, herror.trans herror'.symm⟩

/-- What a walk says does not depend on where its bytes stand. -/
theorem walk_agrees (offset offset' : Nat) (bytes : List UInt8) :
    (walk offset bytes).Agrees (walk offset' bytes) := by
  induction offset, bytes using walk_induction generalizing offset' with
  | unreadable offset bytes hu => exact agrees_of_unreadable hu hu offset offset'
  | message offset bytes length payload hl hp ih =>
      rw [walk_of_message hl hp, walk_of_message hl hp]
      exact payload.resume_agrees (ih _)

theorem unreadable_nil : Unreadable [] := by
  intro length hl
  cases hl

end Walk

/-! ## Framed messages -/

/-- The length that the header of a message declares. -/
def lengthField (message : List UInt8) : Nat := Bytes.field message 0 4

/-- The type that the header of a message declares. -/
def typeField (message : List UInt8) : Nat := Bytes.field message 4 2

/-- The message is as long as its header declares, rounded up to a multiple of four, and its header
declares itself at least. -/
structure Framed (message : List UInt8) : Prop where
  header : headerSize ≤ lengthField message
  filled : message.length = align (lengthField message)

/-- What the message says, if it can be read. -/
def payload? [OtherMessages] (message : List UInt8) : Option Payload :=
  decodeMessage? message (lengthField message)

section Framed

variable {message : List UInt8} (hm : Framed message)

include hm

theorem Framed.lengthField_le : lengthField message ≤ message.length := by
  rw [hm.filled]
  exact le_align _

theorem Framed.headerSize_le : headerSize ≤ message.length :=
  Nat.le_trans hm.header hm.lengthField_le

/-- A framed message declares its length whatever follows it. -/
theorem Framed.declaredLength?_append (tail : List UInt8) :
    declaredLength? (message ++ tail) = some (lengthField message) := by
  have hsize := hm.headerSize_le
  have hlength := hm.lengthField_le
  have hfield : Bytes.field (message ++ tail) 0 4 = lengthField message := by
    apply Bytes.field_append_left
    simp only [headerSize] at hsize
    omega
  rw [declaredLength?_eq_some_iff, List.length_append]
  exact ⟨by omega, hfield, hm.header, by omega⟩

variable [OtherMessages]

/-- A framed message says the same whatever follows it. -/
theorem Framed.decodeMessage?_append (tail : List UInt8) :
    decodeMessage? (message ++ tail) (lengthField message) = payload? message := by
  have hsize := hm.headerSize_le
  have htype : Bytes.field (message ++ tail) 4 2 = Bytes.field message 4 2 := by
    apply Bytes.field_append_left
    simp only [headerSize] at hsize
    omega
  rw [payload?, decodeMessage?, decodeMessage?, htype,
    List.take_append_of_le_length hm.lengthField_le]

/-- Behind a framed message the walk goes on with what follows it. -/
theorem Framed.walk_append {p : Payload} (hp : payload? message = some p) (offset : Nat)
    (tail : List UInt8) :
    walk offset (message ++ tail) = p.resume (walk (offset + message.length) tail) := by
  have hsays : decodeMessage? (message ++ tail) (lengthField message) = some p :=
    (hm.decodeMessage?_append tail).trans hp
  rw [walk_of_message (hm.declaredLength?_append tail) hsays, ← hm.filled, List.drop_left]

theorem Framed.unreadable_append (hp : payload? message = none) (tail : List UInt8) :
    Unreadable (message ++ tail) := by
  intro length hl
  rw [hm.declaredLength?_append tail] at hl
  obtain rfl := Option.some.inj hl
  exact (hm.decodeMessage?_append tail).trans hp

end Framed

/-- Whatever framed messages stand in front, what follows them is read as it is elsewhere, if it is
read at all. -/
theorem flatten_append_agrees [OtherMessages] {front : List (List UInt8)}
    (hfront : ∀ f ∈ front, Framed f) {rest rest' : List UInt8}
    (h : ∀ offset offset', (walk offset rest).Agrees (walk offset' rest'))
    (offset offset' : Nat) :
    (walk offset (front.flatten ++ rest)).Agrees (walk offset' (front.flatten ++ rest')) := by
  induction front generalizing offset offset' with
  | nil => exact h offset offset'
  | cons first front ih =>
      obtain ⟨hfirst, hothers⟩ := List.forall_mem_cons.mp hfront
      rw [List.flatten_cons, List.append_assoc, List.append_assoc]
      cases hp : payload? first with
      | none =>
          apply agrees_of_unreadable
          · exact hfirst.unreadable_append hp _
          · exact hfirst.unreadable_append hp _
      | some p =>
          rw [hfirst.walk_append hp, hfirst.walk_append hp]
          exact p.resume_agrees (ih hothers _ _)

/-! ## Messages about something else -/

/-- The type is none of those that the walk acts on: an error, the end of the messages, and an
address that was added or removed. -/
def OtherType (type : Nat) : Prop := type ≠ 2 ∧ type ≠ 3 ∧ type ≠ 20 ∧ type ≠ 21

instance (type : Nat) : Decidable (OtherType type) := inferInstanceAs (Decidable (_ ∧ _))

section

variable [OtherMessages]

/-- The type is one of those about something else whose payloads are known: a message of no content,
an overrun, a request for addresses, or one that the reader of other messages knows. -/
def KnownType (type : Nat) : Prop :=
  type = 1 ∨ type = 4 ∨ type = 22 ∨ (OtherMessages.reader? type).isSome

instance (type : Nat) : Decidable (KnownType type) := inferInstanceAs (Decidable (_ ∨ _ ∨ _ ∨ _))

/-- A message of another type is about something else, if it can be read. -/
theorem eq_unrelated_of_otherType {type : Nat} (htype : OtherType type) {payload : List UInt8}
    {p : Payload} (hp : decodePayload? type payload = some p) : p = .unrelated := by
  obtain ⟨herror, hdone, hnew, hdel⟩ := htype
  unfold decodePayload? at hp
  split at hp
  · exact (Option.some.inj hp).symm
  · exact (Option.some.inj hp).symm
  · exact absurd rfl herror
  · exact absurd rfl hdone
  · exact absurd rfl hnew
  · exact absurd rfl hdel
  · split at hp
    · exact (Option.some.inj hp).symm
    · obtain ⟨m, -, hm⟩ := Option.map_eq_some_iff.mp hp
      exact hm.symm
  · split at hp
    · cases hp
    · split at hp
      · exact (Option.some.inj hp).symm
      · cases hp

/-- **Inserted messages.** Behind any framed messages, and in front of whatever follows, let a framed
message of another type be inserted. If it can be read, the datagram says what it says without it:
the same notices in the same order, and the same error or none. If its type is known and it cannot
be read, the datagram says what the messages in front of it say. Messages of types that are not
known are left open. -/
theorem readDatagram_of_inserted {front : List (List UInt8)} (hfront : ∀ f ∈ front, Framed f)
    {message : List UInt8} (hm : Framed message) (htype : OtherType (typeField message))
    (rest : List UInt8) :
    ((payload? message).isSome → (readDatagram (front.flatten ++ (message ++ rest))).Agrees
      (readDatagram (front.flatten ++ rest))) ∧
    (KnownType (typeField message) → payload? message = none →
      (readDatagram (front.flatten ++ (message ++ rest))).Agrees (readDatagram front.flatten)) := by
  refine ⟨fun hreadable => ?_, fun _ hp => ?_⟩
  · -- Behind the message the walk goes on as it does without it, only at another place.
    obtain ⟨p, hp⟩ := Option.isSome_iff_exists.mp hreadable
    obtain rfl : p = .unrelated := eq_unrelated_of_otherType htype hp
    apply flatten_append_agrees hfront
    intro offset offset'
    rw [hm.walk_append hp]
    exact walk_agrees _ offset' rest
  · -- What follows an unreadable message is not read, as if the datagram ended in front of it.
    have hnothing : ∀ offset offset', (walk offset (message ++ rest)).Agrees (walk offset' []) := by
      intro offset offset'
      exact agrees_of_unreadable (hm.unreadable_append hp rest) unreadable_nil offset offset'
    have hends := flatten_append_agrees hfront hnothing 0 0
    rw [List.append_nil] at hends
    exact hends

end

/-- A request was acknowledged. -/
def acknowledged : List UInt8 :=
  [20, 0, 0, 0, 2, 0, 0, 0, 0, 0, 0, 0, 0, 0, 0, 0, 0, 0, 0, 0]

/-- An address of the interface 2 was added. -/
def addressAdded : List UInt8 :=
  [32, 0, 0, 0, 20, 0, 0, 0, 0, 0, 0, 0, 0, 0, 0, 0,
    2, 24, 0, 0, 2, 0, 0, 0, 8, 0, 2, 0, 10, 0, 0, 9]

/-- A link changed; behind the fixed part the message has the name of the link, and is padded. -/
def linkChanged : List UInt8 :=
  [41, 0, 0, 0, 16, 0, 0, 0, 0, 0, 0, 0, 0, 0, 0, 0] ++ List.replicate 16 0 ++
    [9, 0, 3, 0, 101, 116, 104, 48, 0, 0, 0, 0]

/-- A message about a link that lacks the last byte of its fixed part, and is padded. -/
def linkCut : List UInt8 :=
  [31, 0, 0, 0, 16, 0, 0, 0, 0, 0, 0, 0, 0, 0, 0, 0] ++ List.replicate 16 0

section

attribute [local instance] OtherMessages.framing

/-- Behind an acknowledgement, the change of a link does not hide the address behind it. Behind the
message of that address, the cut message about a link hides the second one. -/
theorem readDatagram_of_inserted_links :
    (readDatagram ([acknowledged].flatten ++ (linkChanged ++ addressAdded))).notices =
      [⟨.added, 2, .v4 ⟨10, 0, 0, 9⟩⟩] ∧
    (readDatagram ([addressAdded].flatten ++ (linkCut ++ addressAdded))).notices =
      [⟨.added, 2, .v4 ⟨10, 0, 0, 9⟩⟩] := by
  have hacknowledged : ∀ f ∈ [acknowledged], Framed f :=
    List.forall_mem_singleton.mpr ⟨by decide, rfl⟩
  have haddress : ∀ f ∈ [addressAdded], Framed f := List.forall_mem_singleton.mpr ⟨by decide, rfl⟩
  have hchanged : Framed linkChanged := ⟨by decide, rfl⟩
  have hcut : Framed linkCut := ⟨by decide, rfl⟩
  obtain ⟨hread, -⟩ := readDatagram_of_inserted hacknowledged hchanged (by decide) addressAdded
  obtain ⟨-, hunread⟩ := readDatagram_of_inserted haddress hcut (by decide) addressAdded
  constructor
  · rw [(hread (by decide +kernel)).notices]
    decide +kernel
  · rw [(hunread (by decide) (by decide)).notices]
    decide +kernel

/-- A framed message about a link, in front of the message of an address, makes a difference. -/
theorem cut_link_hides_address :
    Framed linkCut ∧ OtherType (typeField linkCut) ∧ Framed addressAdded ∧
      (readDatagram addressAdded).notices = [⟨.added, 2, .v4 ⟨10, 0, 0, 9⟩⟩] ∧
      (readDatagram (linkCut ++ addressAdded)).notices = [] := by
  refine ⟨⟨by decide, rfl⟩, by decide, ⟨by decide, rfl⟩, ?_, ?_⟩
  · decide +kernel
  · decide +kernel

end

end Route

end AddressWatch
