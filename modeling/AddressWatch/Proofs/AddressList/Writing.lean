/-
  AddressWatch.Proofs.AddressList.Writing

  Writing a snapshot into a buffer of fixed size. What is written are the UTF-8 bytes of the
  snapshot's text, at the start of the buffer and all of them, and the rest of the buffer stays as it
  is; a buffer that is too small stays as it is altogether. The error tells the size with which it
  works (`whole_or_nothing`).
-/

import AddressWatch.AddressList.Snapshot
import AddressWatch.Proofs.Text.Utf8

namespace AddressWatch

/-! ## Bytes in a buffer -/

/-- After a write to a buffer the bytes stand at its start, and each byte behind them is the one that
was there before. -/
structure WrittenAtStart (bytes before after : List UInt8) : Prop where
  length : after.length = before.length
  start : after.take bytes.length = bytes
  behind : ∀ i, bytes.length ≤ i → after[i]? = before[i]?

namespace WrittenAtStart

variable {bytes before after : List UInt8}

theorem append_drop (hfits : bytes.length ≤ before.length) :
    WrittenAtStart bytes before (bytes ++ before.drop bytes.length) where
  length := by
    rw [List.length_append, List.length_drop]
    omega
  start := List.take_left
  behind i hi := by
    have hposition : bytes.length + (i - bytes.length) = i := by omega
    rw [List.getElem?_append_right hi, List.getElem?_drop, hposition]

/-- Bytes that are as long as the buffer fill it. -/
theorem eq_of_length_eq (h : WrittenAtStart bytes before after)
    (hlength : before.length = bytes.length) : after = bytes := by
  have hall : after.length ≤ bytes.length := by
    rw [h.length]
    omega
  have hstart := h.start
  rwa [List.take_of_length_le hall] at hstart

end WrittenAtStart

namespace AddressList

variable (l : AddressList)

/-! ## The bytes of a snapshot -/

/-- The bytes of the snapshot are those of its text. -/
theorem snapshotBytes_eq : l.snapshotBytes = l.snapshotText.toUTF8.data.toList := by
  rw [snapshotBytes, ← Text.utf8_toList, snapshotText, Json.text, String.toList_ofList]

theorem length_snapshotBytes : l.snapshotBytes.length = l.snapshotText.utf8ByteSize := by
  rw [snapshotBytes_eq, Array.length_toList]
  rfl

/-! ## Writing -/

theorem writeSnapshot_of_fits {buffer : List UInt8}
    (hfits : l.snapshotText.utf8ByteSize ≤ buffer.length) :
    l.writeSnapshot buffer =
      (l.snapshotBytes ++ buffer.drop l.snapshotBytes.length, .ok l.snapshotText.utf8ByteSize) := by
  have hlength := l.length_snapshotBytes
  rw [writeSnapshot, if_neg (by omega), hlength]

theorem writeSnapshot_of_too_small {buffer : List UInt8}
    (hsmall : buffer.length < l.snapshotText.utf8ByteSize) :
    l.writeSnapshot buffer =
      (buffer, .error ⟨l.snapshotText.utf8ByteSize, buffer.length⟩) := by
  have hlength := l.length_snapshotBytes
  rw [writeSnapshot, if_pos (by omega), hlength]

/-- A buffer of the right size is filled. -/
theorem writeSnapshot_of_exact {buffer : List UInt8}
    (hexact : buffer.length = l.snapshotText.utf8ByteSize) :
    l.writeSnapshot buffer =
      (l.snapshotText.toUTF8.data.toList, .ok l.snapshotText.utf8ByteSize) := by
  have hlength := l.length_snapshotBytes
  have hwritten : WrittenAtStart l.snapshotBytes buffer
      (l.snapshotBytes ++ buffer.drop l.snapshotBytes.length) := .append_drop (by omega)
  rw [l.writeSnapshot_of_fits (by omega), hwritten.eq_of_length_eq (by omega), snapshotBytes_eq]

/-- **The whole text or nothing.** A snapshot is written exactly if its bytes fit into the buffer,
whatever this holds. If they do, the number of the bytes is returned, they stand at the start of the
buffer, and the rest of it is as before; if they do not, the buffer is as before, and the error tells
both sizes. Any buffer of the size that the error asks for is filled. -/
theorem whole_or_nothing (buffer : List UInt8) :
    ((∃ n, (l.writeSnapshot buffer).2 = .ok n) ↔
      l.snapshotText.utf8ByteSize ≤ buffer.length) ∧
    (∀ n, (l.writeSnapshot buffer).2 = .ok n →
      n = l.snapshotText.utf8ByteSize ∧
      WrittenAtStart l.snapshotText.toUTF8.data.toList buffer (l.writeSnapshot buffer).1) ∧
    ∀ e, (l.writeSnapshot buffer).2 = .error e →
      e = ⟨l.snapshotText.utf8ByteSize, buffer.length⟩ ∧
      (l.writeSnapshot buffer).1 = buffer ∧
      ∀ again : List UInt8, again.length = e.needed →
        l.writeSnapshot again = (l.snapshotText.toUTF8.data.toList, .ok e.needed) := by
  by_cases hfits : l.snapshotText.utf8ByteSize ≤ buffer.length
  · have hlength := l.length_snapshotBytes
    have hwritten : WrittenAtStart l.snapshotBytes buffer
        (l.snapshotBytes ++ buffer.drop l.snapshotBytes.length) := .append_drop (by omega)
    rw [l.writeSnapshot_of_fits hfits, ← snapshotBytes_eq]
    refine ⟨iff_of_true ⟨_, rfl⟩ hfits, fun n hn => ?_, nofun⟩
    exact ⟨(Except.ok.inj hn).symm, hwritten⟩
  · rw [l.writeSnapshot_of_too_small (by omega)]
    refine ⟨iff_of_false nofun hfits, nofun, fun e he => ?_⟩
    obtain rfl := Except.error.inj he
    exact ⟨rfl, rfl, fun again hagain => l.writeSnapshot_of_exact hagain⟩

/-- The snapshot of a failure whose message has a letter of two bytes. A buffer with room for each
character of its text is too small by one byte; one byte more than is needed stays as it is. -/
theorem whole_or_nothing_of_accent :
    let l := failed (.platform "é\n")
    l.snapshotText.length = 55 ∧
    l.writeSnapshot (List.replicate 55 0xAA) = (List.replicate 55 0xAA, .error ⟨56, 55⟩) ∧
    l.writeSnapshot (List.replicate 56 0xAA) = (l.snapshotText.toUTF8.data.toList, .ok 56) ∧
    (l.writeSnapshot (List.replicate 57 0xAA)).2 = .ok 56 ∧
    (l.writeSnapshot (List.replicate 57 0xAA)).1[56]? = some 0xAA := by
  intro l
  have hbytes : l.snapshotText.utf8ByteSize = 56 := by
    rw [← length_snapshotBytes]
    decide +kernel
  obtain ⟨hfits, hok, -⟩ := whole_or_nothing l (List.replicate 57 0xAA)
  obtain ⟨n, hlarge⟩ := hfits.mpr (by rw [hbytes]; decide)
  obtain ⟨hn, hwritten⟩ := hok n hlarge
  rw [hn, hbytes] at hlarge
  have hsmall : l.writeSnapshot (List.replicate 55 0xAA) = (_, .error ⟨_, _⟩) :=
    l.writeSnapshot_of_too_small (by rw [hbytes]; decide)
  rw [hbytes, List.length_replicate] at hsmall
  obtain ⟨-, -, herror⟩ := whole_or_nothing l (List.replicate 55 0xAA)
  obtain ⟨-, -, hagain⟩ := herror ⟨56, 55⟩ (by rw [hsmall])
  refine ⟨by decide +kernel, hsmall, hagain _ List.length_replicate, hlarge, ?_⟩
  rw [hwritten.behind 56 (Nat.le_of_eq hbytes)]
  rfl

end AddressList

end AddressWatch
