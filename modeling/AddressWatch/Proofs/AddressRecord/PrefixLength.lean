/-
  AddressWatch.Proofs.AddressRecord.PrefixLength

  Prefix lengths and the length of the address. A record that is made from its parts, and so every
  record of an address table, has a prefix length that fits into its address; filtering a table
  keeps that. A record that is read from JSON has the prefix length of the text, whether it fits or
  not (`prefixLength_fits`).
-/

import AddressWatch.Proofs.AddressRecord.RoundTrip
import AddressWatch.Unix.InterfaceEntry
import AddressWatch.Windows.AdapterTable

namespace AddressWatch

/-- The prefix length of the record is at most the length of its address. -/
def AddressRecord.Fits (r : AddressRecord) : Prop := r.prefixLength ≤ r.family.maxPrefixLength

instance (r : AddressRecord) : Decidable r.Fits := inferInstanceAs (Decidable (_ ≤ _))

/-- Every record of the table, if it was fetched at all, has a prefix length that fits. -/
def Table.Fits (table : Table) : Prop := ∀ records ∈ table.toOption, ∀ r ∈ records, r.Fits

/-- Every record of the list has a prefix length that fits. -/
def AddressList.Fits (l : AddressList) : Prop := ∀ r ∈ l.records, r.Fits

theorem Table.fits_ok {records : List AddressRecord} (hrecords : ∀ r ∈ records, r.Fits) :
    Table.Fits (.ok records) := by
  intro found hfound
  cases hfound
  exact hrecords

theorem Table.fits_error (e : FetchError) : Table.Fits (.error e) := by
  intro found hfound
  cases hfound

/-- What a filter keeps of a table fits as the table does. -/
theorem Table.Fits.enumerateWith {table : Table} (htable : table.Fits)
    (accepts : AddressRecord → Bool) : (table.enumerateWith accepts).Fits := by
  intro r hr
  cases table with
  | error e => cases hr
  | ok records => exact htable records rfl r (List.mem_of_mem_filter hr)

/-- A record that is made from its parts has a prefix length that fits. -/
theorem AddressRecord.clamped_fits (interface : String) (address : IpAddr) (prefixLength : UInt8)
    (isUp isLoopback : Bool) : (clamped interface address prefixLength isUp isLoopback).Fits := by
  show (if prefixLength ≤ address.family.maxPrefixLength then prefixLength
    else address.family.maxPrefixLength) ≤ address.family.maxPrefixLength
  split
  · assumption
  · exact UInt8.le_refl _

namespace Unix

theorem InterfaceEntry.fits_of_record? {e : InterfaceEntry} {r : AddressRecord}
    (hr : e.record? = some r) : r.Fits := by
  rw [record?] at hr
  -- An entry with all its parts becomes a record in no other way than from these parts.
  obtain ⟨address, -, hr⟩ := Option.bind_eq_some_iff.mp hr
  obtain ⟨ip, -, hr⟩ := Option.bind_eq_some_iff.mp hr
  obtain ⟨name, -, hr⟩ := Option.bind_eq_some_iff.mp hr
  cases hr
  exact AddressRecord.clamped_fits _ _ _ _ _

/-- The records of an interface list fit, whatever its masks are. -/
theorem fetch_fits (answer : Except Int32 (List InterfaceEntry)) : (fetch answer).Fits := by
  cases answer with
  | error errno => exact Table.fits_error _
  | ok entries =>
      refine Table.fits_ok fun r hr => ?_
      obtain ⟨e, -, he⟩ := List.mem_filterMap.mp hr
      exact InterfaceEntry.fits_of_record? he

end Unix

namespace Windows

theorem AdapterEntry.fits_of_mem_records {e : AdapterEntry} {r : AddressRecord}
    (hr : r ∈ e.records) : r.Fits := by
  rw [records] at hr
  obtain ⟨address, -, rfl⟩ := List.mem_map.mp hr
  exact AddressRecord.clamped_fits _ _ _ _ _

/-- The records of a table of adapters fit, whatever prefix lengths the system gives. -/
theorem System.fetch_fits (s : System) : s.fetch.1.Fits := by
  have hfetch : s.fetch.1 =
      s.fetchAdapters.1.map fun entries => entries.flatMap AdapterEntry.records := rfl
  rw [hfetch]
  cases s.fetchAdapters.1 with
  | error e => exact Table.fits_error e
  | ok entries =>
      refine Table.fits_ok fun r hr => ?_
      obtain ⟨e, -, he⟩ := List.mem_flatMap.mp hr
      exact AdapterEntry.fits_of_mem_records he

end Windows

namespace AddressRecord

/-- A record is what is made from its parts exactly if its prefix length fits. -/
theorem clamped_eq_iff (r : AddressRecord) :
    clamped r.interface r.address r.prefixLength r.isUp r.isLoopback = r ↔ r.Fits := by
  constructor
  · intro heq
    rw [← heq]
    exact clamped_fits _ _ _ _ _
  · intro hfits
    have hmin : min r.prefixLength r.address.family.maxPrefixLength = r.prefixLength := if_pos hfits
    rw [clamped, hmin]

/-- Records that are made from their parts, the records of both kinds of address table and what a
filter keeps of these have prefix lengths that fit. Reading is another matter: every record is read
from its text with the prefix length as it stands there, so what is read is what would be made from
the same parts only if that prefix length fits. -/
theorem prefixLength_fits (r : AddressRecord) (answer : Except Int32 (List Unix.InterfaceEntry))
    (s : Windows.System) (accepts : AddressRecord → Bool) :
    (clamped r.interface r.address r.prefixLength r.isUp r.isLoopback).Fits ∧
    ((Unix.fetch answer).Fits ∧ ((Unix.fetch answer).enumerateWith accepts).Fits) ∧
    (s.fetch.1.Fits ∧ (s.fetch.1.enumerateWith accepts).Fits) ∧
    ofJsonText r.toJson.text.toList = .ok r ∧
    (clamped r.interface r.address r.prefixLength r.isUp r.isLoopback = r ↔ r.Fits) := by
  have hunix := Unix.fetch_fits answer
  have hwindows := s.fetch_fits
  exact ⟨clamped_fits _ _ _ _ _, ⟨hunix, hunix.enumerateWith accepts⟩,
    ⟨hwindows, hwindows.enumerateWith accepts⟩, ofJsonText_text r, r.clamped_eq_iff⟩

/-- An IPv4 address is read with a prefix length of 200. -/
theorem not_fits_of_read_prefix_length :
    ∃ r, ofJsonText ("\x7b\"interface\": \"eth0\", \"address\": \"10.0.0.1\", "
        ++ "\"prefix_length\": 200, \"is_up\": true, \"is_loopback\": false\x7d").toList = .ok r ∧
      ¬ r.Fits := by
  refine ⟨⟨"eth0", .v4 ⟨10, 0, 0, 1⟩, 200, true, false⟩, by decide +kernel, ?_⟩
  decide

end AddressRecord

end AddressWatch
