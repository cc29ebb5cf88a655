/-
  AddressWatch.Route.Datagram

  Walking the messages of a datagram. The walk ends at a message that cannot be read, at one that
  ends the datagram, or at an error message with a code other than zero; the next message starts
  where the declared length, rounded up to a multiple of four, ends.
-/

import AddressWatch.Route.Message
import AddressWatch.Monitor.Event

namespace AddressWatch.Route

/-- A change of an address of the interface with the given index. -/
structure Notice where
  kind : ChangeKind
  index : UInt32
  address : IpAddr
  deriving DecidableEq

/-- What the walk comes upon. -/
inductive Finding where
  | notice (n : Notice)
  /-- An address message that names no address. -/
  | withoutAddress
  /-- A message at the given offset that cannot be read. -/
  | unreadable (offset : Nat)
  deriving DecidableEq

/-- What an address message amounts to. -/
def Finding.ofMessage (kind : ChangeKind) (m : AddressMessage) : Finding :=
  match m.address? with
  | some address => .notice ⟨kind, m.index, address⟩
  | none => .withoutAddress

/-- The findings of a walk in order, and the number of the error that ended it, if one did. -/
structure Reading where
  findings : List Finding
  error : Option Int32
  deriving DecidableEq

/-- The reading with one more finding in front. -/
def Reading.after (first : Finding) (r : Reading) : Reading :=
  { r with findings := first :: r.findings }

/-- The positive number of an error code; the least code has the greatest number. -/
def errorNumber (code : Int) : Int32 := Int32.ofInt (min code.natAbs 2147483647)

/-- Walks the messages of `bytes`, which stand at `offset` of their datagram. -/
def walk [OtherMessages] (offset : Nat) (bytes : List UInt8) : Reading :=
  if bytes.isEmpty then ⟨[], none⟩
  else
    match _h : declaredLength? bytes with
    | none => ⟨[.unreadable offset], none⟩
    | some length =>
      match decodeMessage? bytes length with
      | none => ⟨[.unreadable offset], none⟩
      | some .done => ⟨[], none⟩
      | some (.error code) =>
        if code = 0 then walk (offset + align length) (bytes.drop (align length))
        else ⟨[], some (errorNumber code)⟩
      | some (.newAddress m) =>
        (walk (offset + align length) (bytes.drop (align length))).after (.ofMessage .added m)
      | some (.delAddress m) =>
        (walk (offset + align length) (bytes.drop (align length))).after (.ofMessage .removed m)
      | some .unrelated => walk (offset + align length) (bytes.drop (align length))
termination_by bytes.length
decreasing_by
  all_goals
    have h₁ := declaredLength?_bounds _h
    have h₂ := le_align length
    simp only [headerSize] at h₁
    simp only [List.length_drop]
    omega

/-- What the messages of a datagram say. -/
def readDatagram [OtherMessages] (bytes : List UInt8) : Reading := walk 0 bytes

/-- The notices among the findings. -/
def Reading.notices (r : Reading) : List Notice :=
  r.findings.filterMap fun f => match f with | .notice n => some n | _ => none

/-- The bytes of messages of which each but the last is padded to a multiple of four. -/
def joinMessages : List (List UInt8) → List UInt8
  | [] => []
  | [m] => m
  | m :: rest => m ++ Attribute.padding m.length ++ joinMessages rest

end AddressWatch.Route
