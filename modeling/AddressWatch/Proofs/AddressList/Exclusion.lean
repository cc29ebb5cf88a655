/-
  AddressWatch.Proofs.AddressList.Exclusion

  A list is either records or an error. The fields of a list would allow both; that it never has
  both is kept up by every way to obtain one (`AddressList.Obtained`). A caller who sees only the
  code can rely on it for what a platform answers (`list_or_error`). Of all causes of a failed fetch
  only a Windows error of which nothing is known has the code zero; no fetch of a platform fails
  with it, but a list that carries it looks like one without an error (`errorCode_of_emptyFailure`).
-/

import AddressWatch.Enumeration
import AddressWatch.Unix.InterfaceEntry
import AddressWatch.Proofs.Windows.Balance

namespace AddressWatch

/-! ## Codes -/

/-- Neither the low bits of a code nor a code with the top bit set can be confused with zero. -/
theorem WindowsError.hresultOf_eq_zero_iff (win32 : UInt32) : hresultOf win32 = 0 ↔ win32 = 0 := by
  have hinj : ∀ n : UInt32, n.toInt32 = 0 ↔ n = 0 := fun n =>
    ⟨congrArg Int32.toUInt32, congrArg UInt32.toInt32⟩
  rw [hresultOf]
  split
  · exact hinj win32
  · rename_i hsmall
    rw [not_or] at hsmall
    rw [hinj, UInt32.or_eq_zero_iff]
    refine iff_of_false (fun hzero => ?_) hsmall.1
    exact absurd hzero.2 (by decide)

/-- The only cause without a code of its own is a Windows error of which nothing is known. -/
theorem FetchError.code_eq_zero_iff (e : FetchError) :
    e.code = 0 ↔ ∃ source, e = .windows source ∧ source.hresult = 0 := by
  cases e with
  | io context source =>
      refine iff_of_false (source.codeOr_ne_zero (by decide)) ?_
      rintro ⟨_, ⟨⟩, _⟩
  | platform message =>
      refine iff_of_false (by decide : (1 : Int32) ≠ 0) ?_
      rintro ⟨_, ⟨⟩, _⟩
  | unsupported =>
      refine iff_of_false (by decide : unsupportedCode ≠ 0) ?_
      rintro ⟨_, ⟨⟩, _⟩
  | windows source =>
      rw [code]
      constructor
      · exact fun hzero => ⟨source, rfl, hzero⟩
      · rintro ⟨_, ⟨⟩, hzero⟩
        exact hzero

/-! ## Ways to obtain a list -/

/-- The tables that a platform can answer with. -/
inductive Table.OfPlatform : Table → Prop
  | unix (answer : Except Int32 (List Unix.InterfaceEntry)) : OfPlatform (Unix.fetch answer)
  | windows (s : Windows.System) : OfPlatform s.fetch.1
  | unsupported : OfPlatform (.error .unsupported)

/-- The lists that an enumeration of the table can give. -/
inductive Table.Enumerates (table : Table) : AddressList → Prop
  | enumerateWith (accepts : AddressRecord → Bool) : Enumerates table (table.enumerateWith accepts)
  | enumerate (flags : InclusionFlags) : Enumerates table (table.enumerate flags)
  | ipv4Addresses : Enumerates table table.ipv4Addresses
  | ipv6Addresses : Enumerates table table.ipv6Addresses
  | allAddresses : Enumerates table table.allAddresses

/-- The lists that can be obtained. -/
inductive AddressList.Obtained : AddressList → Prop
  | ofRecords (records : List AddressRecord) : Obtained (.ofRecords records)
  | failed (e : FetchError) : Obtained (.failed e)
  | empty : Obtained .empty
  | enumerated {table : Table} {l : AddressList} (hl : table.Enumerates l) : Obtained l
  | retain {l : AddressList} (hl : Obtained l) (keep : AddressRecord → Bool) :
      Obtained (l.retain keep)

/-- The list has no records or no error. -/
def AddressList.Exclusive (l : AddressList) : Prop := l.records = [] ∨ l.error = none

section Exclusive

variable {l : AddressList} {table : Table}

/-- What is left of no records are no records, and the error stays. -/
theorem AddressList.Exclusive.retain (hl : l.Exclusive) (keep : AddressRecord → Bool) :
    (l.retain keep).Exclusive := by
  rcases hl with hrecords | herror
  · refine .inl ?_
    rw [AddressList.retain, hrecords, List.filter_nil]
  · exact .inr herror

theorem Table.exclusive_enumerateWith (table : Table) (accepts : AddressRecord → Bool) :
    (table.enumerateWith accepts).Exclusive := by
  cases table with
  | ok records => exact .inr rfl
  | error e => exact .inl rfl

/-- Every enumeration is one with a filter, whose records the IPv6 preset thins out. -/
theorem Table.Enumerates.exclusive (hl : table.Enumerates l) : l.Exclusive := by
  cases hl with
  | enumerateWith accepts => exact table.exclusive_enumerateWith accepts
  | enumerate flags => exact table.exclusive_enumerateWith flags.accepts
  | ipv4Addresses => exact table.exclusive_enumerateWith _
  | ipv6Addresses => exact (table.exclusive_enumerateWith _).retain _
  | allAddresses => exact table.exclusive_enumerateWith _

theorem AddressList.Obtained.exclusive (hl : l.Obtained) : l.Exclusive := by
  induction hl with
  | ofRecords records => exact .inr rfl
  | failed e => exact .inl rfl
  | empty => exact .inr rfl
  | enumerated hl => exact hl.exclusive
  | retain _ keep ih => exact ih.retain keep

/-- No enumeration changes the error of a failed fetch. -/
theorem Table.Enumerates.eq_failed {e : FetchError} (hl : Table.Enumerates (.error e) l) :
    l = .failed e := by
  cases hl <;> rfl

theorem Table.Enumerates.error_eq_none {records : List AddressRecord}
    (hl : Table.Enumerates (.ok records) l) : l.error = none := by
  cases hl <;> rfl

/-- A fetch of a platform does not fail with the code of success. -/
theorem Table.OfPlatform.hresult_ne_zero {source : WindowsError} (htable : table.OfPlatform)
    (hfailed : table = .error (.windows source)) : source.hresult ≠ 0 := by
  -- Only a Windows system fails so, and for a code that is not that of success.
  cases htable with
  | unix answer =>
      cases answer with
      | ok entries => cases hfailed
      | error errno => cases hfailed
  | windows s =>
      have hfetch : s.fetchAdapters.1 = .error (.windows source) := by
        rw [show s.fetch.1 = s.fetchAdapters.1.map _ from rfl] at hfailed
        cases hadapters : s.fetchAdapters.1 with
        | ok adapters =>
            rw [hadapters] at hfailed
            cases hfailed
        | error e =>
            rw [hadapters] at hfailed
            cases hfailed
            rfl
      obtain ⟨win32, hne, hsame⟩ := Windows.System.exists_code_of_fetchAdapters hfetch
      cases hsame
      exact fun hzero => hne ((WindowsError.hresultOf_eq_zero_iff win32).mp hzero)
  | unsupported => cases hfailed

end Exclusive

namespace AddressList

variable {l : AddressList}

theorem errorCode_eq_zero_iff
    (hl : ∀ source, l.error = some (.windows source) → source.hresult ≠ 0) :
    l.errorCode = 0 ↔ l.error = none := by
  rw [errorCode]
  cases herror : l.error with
  | none => exact iff_of_true rfl rfl
  | some e =>
      refine iff_of_false (fun hzero => ?_) (Option.some_ne_none e)
      obtain ⟨source, rfl, hunknown⟩ := e.code_eq_zero_iff.mp hzero
      exact hl source herror hunknown

/-- **Records or an error.** A list that can be obtained has no record and finds none if it carries
an error. Its code is zero exactly if it carries none, provided that a Windows error in it has a
code. The error of a failed fetch comes through every enumeration as it is, and what a platform's
table gives needs no proviso. -/
theorem list_or_error (hl : l.Obtained) :
    (∀ e, l.error = some e → l.records = [] ∧ l.size = 0 ∧ l.isEmpty = true ∧
      ∀ name, l.findByInterface? name = none) ∧
    ((∀ source, l.error = some (.windows source) → source.hresult ≠ 0) →
      (l.errorCode = 0 ↔ l.error = none)) ∧
    (∀ e, Table.Enumerates (.error e) l → l.error = some e ∧ l.errorCode = e.code ∧
      l.error.map FetchError.message = some e.message) ∧
    ∀ table : Table, table.OfPlatform → table.Enumerates l →
      (l.errorCode = 0 ↔ l.error = none) := by
  refine ⟨fun e herror => ?_, errorCode_eq_zero_iff, fun e henumerates => ?_,
    fun table htable henumerates => ?_⟩
  · rcases hl.exclusive with hrecords | hnone
    · rw [size, isEmpty, hrecords]
      refine ⟨rfl, rfl, rfl, fun name => ?_⟩
      rw [findByInterface?, hrecords, List.find?_nil]
    · rw [herror] at hnone
      cases hnone
  · obtain rfl := henumerates.eq_failed
    exact ⟨rfl, rfl, rfl⟩
  · refine errorCode_eq_zero_iff fun source herror => ?_
    cases table with
    | ok records =>
        rw [henumerates.error_eq_none] at herror
        cases herror
    | error e =>
        obtain rfl := henumerates.eq_failed
        obtain rfl : e = .windows source := Option.some.inj herror
        exact htable.hresult_ne_zero rfl

/-- The IPv6 preset over a fetch that failed without a number of the system. -/
theorem list_or_error_of_failure_without_number :
    let e : FetchError := .io "getifaddrs" (.errno 0)
    let l := Table.ipv6Addresses (.error e)
    l.records = [] ∧ (∀ name, l.findByInterface? name = none) ∧ l.error = some e ∧
      l.errorCode = 4 ∧ (l.errorCode = 0 ↔ l.error = none) := by
  intro e l
  have henumerates : Table.Enumerates (.error e) l := .ipv6Addresses
  obtain ⟨hrecords, hcode, hfailed, -⟩ := list_or_error (.enumerated henumerates)
  obtain ⟨herror, hsame, -⟩ := hfailed e henumerates
  obtain ⟨hnil, -, -, hfind⟩ := hrecords e herror
  refine ⟨hnil, hfind, herror, hsame.trans (by decide), hcode fun source hwindows => ?_⟩
  have hio : FetchError.io "getifaddrs" (.errno 0) = .windows source :=
    Option.some.inj (herror.symm.trans hwindows)
  cases hio

/-- A Windows error that was made without a failed call. -/
def emptyFailure : FetchError := .windows ⟨0, "The operation completed successfully. (0x00000000)"⟩

/-- A list that carries an error, with the code of one that carries none. -/
theorem errorCode_of_emptyFailure :
    (failed emptyFailure).Obtained ∧ (failed emptyFailure).error ≠ none ∧
      (failed emptyFailure).errorCode = 0 := by
  refine ⟨.failed _, ?_, rfl⟩
  exact Option.some_ne_none emptyFailure

end AddressList

end AddressWatch
