/-
  AddressWatch.Proofs.Route.Layout

  How the bytes of a datagram are laid out by the one who writes it. Chunks stand in a row, each
  padded to a multiple of four, the last one perhaps not (`Row`): so stand the attributes in a
  message and the messages in a datagram. An attribute is its header and its value
  (`RawAttribute`). Reading an attribute list and reading a message undo this layout
  (`decodeList_of_row`, `decodeMessage?_encodeMessage`).
-/

import Mathlib.Data.List.Basic
import AddressWatch.Proofs.IpAddr.Bytes
import AddressWatch.Proofs.Route.Walk

namespace AddressWatch

/-! ## Fields -/

namespace Bytes

/-- A field behind some bytes is a field of the rest. -/
theorem field_append_right (front rest : List UInt8) (offset width : Nat) :
    field (front ++ rest) (front.length + offset) width = field rest offset width := by
  rw [field, field, ← List.drop_drop, List.drop_left]

/-- A number is read back from the field it was written to. -/
theorem field_toLittleEndian {width n : Nat} (hn : n < capacity width) (rest : List UInt8) :
    field (toLittleEndian width n ++ rest) 0 width = n := by
  have htake : ((toLittleEndian width n ++ rest).drop 0).take width = toLittleEndian width n := by
    rw [List.drop_zero]
    exact List.take_left' (length_toLittleEndian width n)
  rw [field, htake, ofLittleEndian_toLittleEndian, Nat.mod_eq_of_lt hn]

/-- The field behind a written number. -/
theorem field_after_toLittleEndian (w n : Nat) (rest : List UInt8) (offset width : Nat) :
    field (toLittleEndian w n ++ rest) (w + offset) width = field rest offset width := by
  have hright := field_append_right (toLittleEndian w n) rest offset width
  rw [length_toLittleEndian] at hright
  exact hright

end Bytes

namespace Route

/-! ## Rows of padded chunks -/

/-- `Row chunks bytes`: the bytes are the chunks in a row, each filled up to a multiple of four; the
last one need not be. -/
inductive Row : List (List UInt8) → List UInt8 → Prop
  | nil : Row [] []
  | last (chunk : List UInt8) : Row [chunk] chunk
  | cons {chunk filling bytes : List UInt8} {chunks : List (List UInt8)}
      (hfill : chunk.length + filling.length = align chunk.length) (hrest : Row chunks bytes) :
      Row (chunk :: chunks) (chunk ++ filling ++ bytes)

/-- A row starts with its first chunk, and the other ones are a row from the next multiple of
four on. -/
theorem Row.uncons {chunk bytes : List UInt8} {chunks : List (List UInt8)}
    (hrow : Row (chunk :: chunks) bytes) :
    ∃ tail, bytes = chunk ++ tail ∧ Row chunks (bytes.drop (align chunk.length)) := by
  cases hrow with
  | last =>
      -- The next multiple of four may lie behind the end of the last chunk.
      refine ⟨[], (List.append_nil _).symm, ?_⟩
      rw [List.drop_eq_nil_of_le (le_align _)]
      exact .nil
  | @cons _ filling rest _ hfill hrest =>
      refine ⟨filling ++ rest, List.append_assoc _ _ _, ?_⟩
      rw [← hfill, ← List.length_append, List.drop_left]
      exact hrest

/-! ## Attributes as they are laid out -/

/-- An attribute as it stands in a message. -/
structure RawAttribute where
  /-- The type field, of which the two highest bits are flags. -/
  typeField : UInt16
  value : List UInt8
  /-- The length field can hold the length. -/
  fits : 4 + value.length < 0x10000

namespace RawAttribute

/-- The type without the flags. -/
def type (a : RawAttribute) : Nat := a.typeField.toNat % Attribute.typeCount

/-- What the attribute says, if its value fits its type. -/
def meaning? (a : RawAttribute) : Option Attribute := Attribute.ofValue? a.type a.value

/-- The bytes of the attribute without padding. -/
def bytes (a : RawAttribute) : List UInt8 :=
  Bytes.toLittleEndian 2 (4 + a.value.length) ++
    (Bytes.toLittleEndian 2 a.typeField.toNat ++ a.value)

@[simp] theorem length_bytes (a : RawAttribute) : a.bytes.length = 4 + a.value.length := by
  rw [bytes, List.length_append, List.length_append, Bytes.length_toLittleEndian,
    Bytes.length_toLittleEndian]
  omega

/-- The four header bytes give the length and the type of the attribute. -/
theorem field_length_bytes (a : RawAttribute) (tail : List UInt8) :
    Bytes.field (a.bytes ++ tail) 0 2 = 4 + a.value.length := by
  rw [bytes, List.append_assoc]
  exact Bytes.field_toLittleEndian a.fits _

theorem field_type_bytes (a : RawAttribute) (tail : List UInt8) :
    Bytes.field (a.bytes ++ tail) 2 2 = a.typeField.toNat := by
  rw [bytes, List.append_assoc, List.append_assoc]
  have hafter := Bytes.field_after_toLittleEndian 2 (4 + a.value.length)
    (Bytes.toLittleEndian 2 a.typeField.toNat ++ (a.value ++ tail)) 0 2
  rw [Nat.add_zero] at hafter
  rw [hafter]
  exact Bytes.field_toLittleEndian a.typeField.toNat_lt _

/-- The value stands behind the header bytes. -/
theorem value_bytes (a : RawAttribute) (tail : List UInt8) :
    ((a.bytes ++ tail).drop 4).take (4 + a.value.length - 4) = a.value := by
  rw [Nat.add_sub_cancel_left, bytes, ← List.append_assoc, List.append_assoc]
  have hheader : (Bytes.toLittleEndian 2 (4 + a.value.length) ++
      Bytes.toLittleEndian 2 a.typeField.toNat).length = 4 := by
    rw [List.length_append, Bytes.length_toLittleEndian, Bytes.length_toLittleEndian]
  rw [List.drop_left' hheader, List.take_left]

/-- Taking apart a list that starts with an attribute goes on at the next multiple of four. -/
theorem split?_append (a : RawAttribute) (tail : List UInt8) :
    Attribute.split? (a.bytes ++ tail) =
      (Attribute.split? ((a.bytes ++ tail).drop (align a.bytes.length))).map
        ((a.type, a.value) :: ·) := by
  have hlength : 4 + a.value.length ≤ (a.bytes ++ tail).length := by
    rw [List.length_append, length_bytes]
    omega
  have hnonempty : ¬ (a.bytes ++ tail).isEmpty = true := by
    intro hempty
    rw [List.isEmpty_iff.mp hempty, List.length_nil] at hlength
    omega
  rw [Attribute.split?, if_neg hnonempty]
  simp only [field_length_bytes, field_type_bytes, value_bytes, length_bytes]
  rw [dif_neg (by omega), type]

end RawAttribute

/-- A row of attributes is taken apart into them. -/
theorem split?_of_row {raws : List RawAttribute} {bytes : List UInt8}
    (hrow : Row (raws.map RawAttribute.bytes) bytes) :
    Attribute.split? bytes = some (raws.map fun a => (a.type, a.value)) := by
  -- Behind each attribute the rest of the bytes is a row again.
  induction raws generalizing bytes with
  | nil =>
      cases hrow
      rw [Attribute.split?]
      rfl
  | cons a rest ih =>
      obtain ⟨tail, hbytes, hrest⟩ := hrow.uncons
      rw [hbytes, RawAttribute.split?_append, ← hbytes, ih hrest]
      rfl

/-- Reading a row of attributes gives what they say, if each of them says something. -/
theorem decodeList_of_row {raws : List RawAttribute} {bytes : List UInt8}
    (hrow : Row (raws.map RawAttribute.bytes) bytes) :
    Attribute.decodeList bytes = raws.mapM RawAttribute.meaning? := by
  rw [Attribute.decodeList, split?_of_row hrow, Option.bind_some, List.mapM_map]
  rfl

/-! ## Messages as they are laid out -/

namespace AddressMessage

/-- The payload of an address message is its fixed part and its attributes. -/
theorem decode?_append (family prefixLength flags scope : UInt8) (index : UInt32)
    (body : List UInt8) :
    decode? ([family, prefixLength, flags, scope] ++ Bytes.toLittleEndian 4 index.toNat ++ body) =
      (Attribute.decodeList body).map fun attributes =>
        ⟨family, prefixLength, flags, scope, index, attributes⟩ := by
  have hindex : Bytes.field (Bytes.toLittleEndian 4 index.toNat ++ body) 0 4 = index.toNat :=
    Bytes.field_toLittleEndian index.toNat_lt body
  have hbody : (Bytes.toLittleEndian 4 index.toNat ++ body).drop 4 = body :=
    List.drop_left' (Bytes.length_toLittleEndian _ _)
  have hlength : ¬ (Bytes.toLittleEndian 4 index.toNat ++ body).length < 4 := by
    rw [List.length_append, Bytes.length_toLittleEndian]
    omega
  rw [List.append_assoc]
  simp only [List.cons_append, List.nil_append, decode?]
  rw [if_neg hlength, hbody, hindex, UInt32.ofNat_toNat]

end AddressMessage

/-- Messages one behind the other, padded but for the last one, stand in a row. -/
theorem row_joinMessages (messages : List (List UInt8)) : Row messages (joinMessages messages) := by
  induction messages with
  | nil => exact .nil
  | cons m rest ih =>
      cases rest with
      | nil => exact .last m
      | cons next rest =>
          refine .cons ?_ ih
          rw [Attribute.padding, List.length_replicate]
          have halign := le_align m.length
          omega

@[simp] theorem length_encodeMessage (header : Header) (payload : List UInt8) :
    (encodeMessage header payload).length = headerSize + payload.length := by
  simp only [encodeMessage, List.length_append, Bytes.length_toLittleEndian, headerSize]

/-- A message declares its own length, whatever follows it. -/
theorem declaredLength?_encodeMessage (header : Header) {payload : List UInt8}
    (hfits : headerSize + payload.length < 0x100000000) (tail : List UInt8) :
    declaredLength? (encodeMessage header payload ++ tail) = some (headerSize + payload.length) := by
  have hfield : Bytes.field (encodeMessage header payload ++ tail) 0 4 =
      headerSize + payload.length := by
    simp only [encodeMessage, List.append_assoc]
    exact Bytes.field_toLittleEndian hfits _
  rw [declaredLength?_eq_some_iff, hfield, List.length_append, length_encodeMessage]
  omega

/-- A message says what its payload says as one of its type, whatever follows it. -/
theorem decodeMessage?_encodeMessage [OtherMessages] {header : Header}
    (htype : header.type < 0x10000) (payload tail : List UInt8) :
    decodeMessage? (encodeMessage header payload ++ tail) (headerSize + payload.length) =
      decodePayload? header.type payload := by
  have hfield : Bytes.field (encodeMessage header payload ++ tail) 4 2 = header.type := by
    simp only [encodeMessage, List.append_assoc]
    have hafter := Bytes.field_after_toLittleEndian 4 (headerSize + payload.length)
      (Bytes.toLittleEndian 2 header.type ++ (Bytes.toLittleEndian 2 header.flags.toNat ++
        (Bytes.toLittleEndian 4 header.sequence.toNat ++
          (Bytes.toLittleEndian 4 header.port.toNat ++ (payload ++ tail))))) 0 2
    rw [Nat.add_zero] at hafter
    rw [hafter]
    exact Bytes.field_toLittleEndian htype _
  have hbody : (encodeMessage header payload).drop headerSize = payload := by
    rw [encodeMessage]
    apply List.drop_left'
    simp only [List.length_append, Bytes.length_toLittleEndian, headerSize]
  rw [decodeMessage?, hfield, ← length_encodeMessage header payload, List.take_left, hbody]

end Route

end AddressWatch
