/-
  AddressWatch.Proofs.AddressList.Snapshot

  What a reader of a snapshot learns. The text of a snapshot is one JSON document. Without an error
  it shows the records, each with its six parts and at its position; with one it shows the error
  and no records (`snapshot_faithful`). Records that the same document shows are the same.
-/

import Mathlib.Data.List.Forall2
import AddressWatch.AddressList.Snapshot
import AddressWatch.Proofs.IpAddr.Text
import AddressWatch.Proofs.Json.Document

namespace AddressWatch

open Json

/-! ## Entries -/

/-- The document is an entry that shows the record: its six parts, and nothing else. -/
structure AddressRecord.ShownBy (r : AddressRecord) (entry : Json) : Prop where
  keys : entry.keys = ["interface", "address", "family", "prefix_length", "status", "type"]
  interface : entry.member? "interface" = some (.string r.interface)
  address : entry.member? "address" = some (.string r.address.text)
  family : entry.member? "family" = some (.string (if r.family = .ipv4 then "IPv4" else "IPv6"))
  prefixLength : (entry.member? "prefix_length").bind toInt? = some (r.prefixLength.toNat : Int)
  status : entry.member? "status" = some (.string (if r.isUp then "up" else "down"))
  type : entry.member? "type" = some (.string (if r.isLoopback then "loopback" else "regular"))

namespace AddressRecord

/-- The entry of a record shows it. -/
theorem shownBy_snapshotEntry (r : AddressRecord) : r.ShownBy r.snapshotEntry where
  keys := rfl
  interface := rfl
  address := rfl
  family := by
    show some (Json.string r.family.text) = _
    cases r.family <;> rfl
  prefixLength := toInt?_int r.prefixLength.toNat
  status := rfl
  type := rfl

theorem eq_of_up_or_down {a b : Bool}
    (htext : (if a then "up" else "down") = if b then "up" else "down") : a = b := by
  revert a b
  decide

theorem eq_of_loopback_or_regular {a b : Bool}
    (htext : (if a then "loopback" else "regular") = if b then "loopback" else "regular") :
    a = b := by
  revert a b
  decide

/-- An entry shows one record only. -/
theorem ShownBy.unique {r r' : AddressRecord} {entry : Json} (hr : r.ShownBy entry)
    (hr' : r'.ShownBy entry) : r = r' := by
  -- The same member of the entry shows the same part of both records.
  have hinterface : r.interface = r'.interface :=
    Json.string.inj (Option.some.inj (hr.interface.symm.trans hr'.interface))
  have haddress : r.address = r'.address :=
    IpAddr.text_injective (Json.string.inj (Option.some.inj (hr.address.symm.trans hr'.address)))
  have hprefix : r.prefixLength = r'.prefixLength := by
    have hshown := Option.some.inj (hr.prefixLength.symm.trans hr'.prefixLength)
    exact UInt8.toNat_inj.mp (Int.ofNat.inj hshown)
  have hup : r.isUp = r'.isUp :=
    eq_of_up_or_down (Json.string.inj (Option.some.inj (hr.status.symm.trans hr'.status)))
  have hloopback : r.isLoopback = r'.isLoopback :=
    eq_of_loopback_or_regular (Json.string.inj (Option.some.inj (hr.type.symm.trans hr'.type)))
  exact AddressRecord.ext hinterface haddress hprefix hup hloopback

theorem integral_snapshotEntry (r : AddressRecord) : r.snapshotEntry.Integral := by
  refine .object fun m hm => ?_
  simp only [List.mem_cons, List.not_mem_nil, or_false] at hm
  rcases hm with rfl | rfl | rfl | rfl | rfl | rfl
  · exact .string _
  · exact .string _
  · exact .string _
  · exact .int _
  · exact .string _
  · exact .string _

end AddressRecord

namespace AddressList

/-! ## Snapshots -/

/-- The document shows that there is no error, and the records in their order. -/
structure ShowsRecords (j : Json) (records : List AddressRecord) : Prop where
  keys : j.keys = ["count", "addresses", "error"]
  error : j.member? "error" = some (.bool false)
  count : (j.member? "count").bind toInt? = some (records.length : Int)
  addresses : ∃ items, j.member? "addresses" = some (.array items) ∧
    List.Forall₂ AddressRecord.ShownBy records items

/-- The document shows an error, and no records. -/
structure ShowsError (j : Json) (code : Int32) (message : String) : Prop where
  keys : j.keys = ["error", "code", "message"]
  error : j.member? "error" = some (.bool true)
  code : (j.member? "code").bind toInt? = some code.toInt
  message : j.member? "message" = some (.string message)
  addresses : j.member? "addresses" = none

theorem forall₂_snapshotEntry (records : List AddressRecord) :
    List.Forall₂ AddressRecord.ShownBy records (records.map AddressRecord.snapshotEntry) := by
  induction records with
  | nil => exact .nil
  | cons r records ih => exact .cons r.shownBy_snapshotEntry ih

/-- Items show one list of records only. -/
theorem eq_of_forall₂_shownBy {items : List Json} {records records' : List AddressRecord}
    (h : List.Forall₂ AddressRecord.ShownBy records items)
    (h' : List.Forall₂ AddressRecord.ShownBy records' items) : records = records' := by
  induction h generalizing records' with
  | nil =>
      cases h'
      rfl
  | cons hr hrecords ih =>
      cases h' with
      | cons hr' hrecords' => rw [hr.unique hr', ih hrecords']

theorem ShowsRecords.unique {j : Json} {records records' : List AddressRecord}
    (h : ShowsRecords j records) (h' : ShowsRecords j records') : records = records' := by
  obtain ⟨items, hitems, hshown⟩ := h.addresses
  obtain ⟨items', hitems', hshown'⟩ := h'.addresses
  rw [hitems] at hitems'
  cases hitems'
  exact eq_of_forall₂_shownBy hshown hshown'

theorem ShowsRecords.not_showsError {j : Json} {records : List AddressRecord}
    (h : ShowsRecords j records) (code : Int32) (message : String) :
    ¬ ShowsError j code message := by
  intro h'
  have herror := h.error.symm.trans h'.error
  cases herror

theorem showsRecords_snapshot {l : AddressList} (hl : l.error = none) :
    ShowsRecords l.snapshot l.records := by
  rw [snapshot, hl]
  exact ⟨rfl, rfl, toInt?_int l.records.length, _, rfl, forall₂_snapshotEntry l.records⟩

theorem showsError_snapshot {l : AddressList} {e : FetchError} (hl : l.error = some e) :
    ShowsError l.snapshot l.errorCode e.message := by
  rw [snapshot, errorCode, hl]
  exact ⟨rfl, rfl, toInt?_int e.code.toInt, rfl, rfl⟩

theorem integral_snapshot (l : AddressList) : l.snapshot.Integral := by
  rw [snapshot]
  cases l.error with
  | some e =>
      refine .object fun m hm => ?_
      simp only [List.mem_cons, List.not_mem_nil, or_false] at hm
      rcases hm with rfl | rfl | rfl
      · exact .bool true
      · exact .int _
      · exact .string _
  | none =>
      refine .object fun m hm => ?_
      simp only [List.mem_cons, List.not_mem_nil, or_false] at hm
      rcases hm with rfl | rfl | rfl
      · exact .int _
      · refine .array fun entry hentry => ?_
        obtain ⟨r, -, rfl⟩ := List.mem_map.mp hentry
        exact r.integral_snapshotEntry
      · exact .bool false

/-- The text of a snapshot is the document, and nothing else. -/
theorem parse?_snapshotText (l : AddressList) :
    parse? l.snapshotText.toList = some l.snapshot := by
  rw [snapshotText, Json.text, String.toList_ofList]
  exact l.integral_snapshot.parse?_chars

/-- The text of a snapshot is one document. It shows the records of a list without an error and
the code and message of a failed one. Lists with the same text have both failed or neither has, and
without an error their records are the same. -/
theorem snapshot_faithful (l : AddressList) :
    ∃ j, parse? l.snapshotText.toList = some j ∧
      (l.error = none → ShowsRecords j l.records) ∧
      (∀ e, l.error = some e → ShowsError j l.errorCode e.message) ∧
      ∀ l' : AddressList, l'.snapshotText = l.snapshotText →
        l'.isError = l.isError ∧ (l.error = none → l'.records = l.records) := by
  refine ⟨l.snapshot, l.parse?_snapshotText, showsRecords_snapshot, fun _ => showsError_snapshot,
    fun l' htext => ?_⟩
  have hsame : l'.snapshot = l.snapshot :=
    l'.integral_snapshot.text_injective l.integral_snapshot htext
  rw [isError, isError]
  -- One document shows either records or an error, so both lists show the same.
  cases hl : l.error with
  | none =>
      have hrecords := showsRecords_snapshot hl
      cases hl' : l'.error with
      | none =>
          have hrecords' := showsRecords_snapshot hl'
          rw [hsame] at hrecords'
          exact ⟨rfl, fun _ => hrecords'.unique hrecords⟩
      | some e' =>
          have herror' := showsError_snapshot hl'
          rw [hsame] at herror'
          exact absurd herror' (hrecords.not_showsError _ _)
  | some e =>
      have herror := showsError_snapshot hl
      cases hl' : l'.error with
      | none =>
          have hrecords' := showsRecords_snapshot hl'
          rw [hsame] at hrecords'
          exact absurd herror (hrecords'.not_showsError _ _)
      | some e' =>
          refine ⟨rfl, fun h => ?_⟩
          cases h

/-- A failure with quotes, a backslash and a line feed in its message. -/
def quotedFailure : FetchError := .platform "table \"main\\0\"\nis gone"

/-- A mapped address on an interface with a quote and a line feed in its name, and a failure with
such a message, whose text no list of records has. -/
theorem snapshot_faithful_of_quoted_name_and_failure :
    (∃ j,
      parse? (ofRecords [⟨"a\"\n", .v6 ⟨0, 0, 0, 0, 0, 0xffff, 0x102, 0x304⟩, 96, true, false⟩]
        ).snapshotText.toList = some j ∧
      ShowsRecords j [⟨"a\"\n", .v6 ⟨0, 0, 0, 0, 0, 0xffff, 0x102, 0x304⟩, 96, true, false⟩]) ∧
    (∃ j,
      parse? (failed quotedFailure).snapshotText.toList = some j ∧
      ShowsError j 1 "Platform error: table \"main\\0\"\nis gone") ∧
    ∀ records, (ofRecords records).snapshotText ≠ (failed quotedFailure).snapshotText := by
  refine ⟨?_, ?_, fun records htext => ?_⟩
  · obtain ⟨j, hj, hrecords, -, -⟩ := snapshot_faithful
      (ofRecords [⟨"a\"\n", .v6 ⟨0, 0, 0, 0, 0, 0xffff, 0x102, 0x304⟩, 96, true, false⟩])
    exact ⟨j, hj, hrecords rfl⟩
  · obtain ⟨j, hj, -, herror, -⟩ := snapshot_faithful (failed quotedFailure)
    exact ⟨j, hj, herror quotedFailure rfl⟩
  · obtain ⟨-, -, -, -, hsame⟩ := snapshot_faithful (failed quotedFailure)
    have hfailed := (hsame (ofRecords records) htext).1
    cases hfailed

end AddressList

end AddressWatch
