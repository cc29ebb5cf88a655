/-
  AddressWatch.AddressList.Snapshot

  The JSON snapshot of an enumeration, and writing it into a buffer of fixed size: the whole text or
  nothing.
-/

import AddressWatch.AddressList
import AddressWatch.AddressRecord.Json
import AddressWatch.Text.Utf8

namespace AddressWatch

/-- The entry of a record in a snapshot. -/
def AddressRecord.snapshotEntry (r : AddressRecord) : Json :=
  .object
    [ ("interface", .string r.interface),
      ("address", .string r.address.text),
      ("family", .string r.family.text),
      ("prefix_length", .int r.prefixLength.toNat),
      ("status", .string r.status),
      ("type", .string r.interfaceType) ]

namespace AddressList

/-- The snapshot: the records with their number, or the code and the message of the error. -/
def snapshot (l : AddressList) : Json :=
  match l.error with
  | some e =>
    .object
      [ ("error", .bool true), ("code", .int e.code.toInt), ("message", .string e.message) ]
  | none =>
    .object
      [ ("count", .int l.size),
        ("addresses", .array (l.records.map AddressRecord.snapshotEntry)),
        ("error", .bool false) ]

/-- The compact text of the snapshot. -/
def snapshotText (l : AddressList) : String := l.snapshot.text

/-- The bytes of the snapshot's text. -/
def snapshotBytes (l : AddressList) : List UInt8 := Text.utf8 l.snapshot.chars

/-- A buffer is too small for a snapshot. -/
structure BufferTooSmall where
  needed : Nat
  available : Nat
  deriving DecidableEq, Repr

/-- The text of the error. -/
def BufferTooSmall.message (e : BufferTooSmall) : String :=
  "Buffer too small: need " ++ Text.decimal e.needed ++ " bytes, have " ++ Text.decimal e.available

/-- The buffer with the snapshot's bytes at its start, and how many there are; a buffer that is
too small for all of them stays as it is. -/
def writeSnapshot (l : AddressList) (buffer : List UInt8) :
    List UInt8 × Except BufferTooSmall Nat :=
  let bytes := l.snapshotBytes
  if buffer.length < bytes.length then (buffer, .error ⟨bytes.length, buffer.length⟩)
  else (bytes ++ buffer.drop bytes.length, .ok bytes.length)

end AddressList

end AddressWatch
