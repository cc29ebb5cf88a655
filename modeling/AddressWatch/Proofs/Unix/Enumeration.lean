/-
  AddressWatch.Proofs.Unix.Enumeration

  What an enumeration makes of the system's interface list. Every entry with a name and an internet
  address stands for one record and no other entry stands for any (`forall₂_records`), so what is
  enumerated is, in the order of the list, what the filter accepts of these records (`enumeration`).
-/

import AddressWatch.Proofs.SocketAddress
import AddressWatch.Proofs.Text.Utf8
import AddressWatch.Unix.InterfaceEntry
import Mathlib.Data.List.Forall2
import Mathlib.Data.Nat.Bitwise

namespace AddressWatch

/-! ## Prefix lengths -/

/-- The number of set bits. -/
def setBits : List UInt8 → Nat
  | [] => 0
  | b :: rest => (List.range 8).countP b.toNat.testBit + setBits rest

theorem count_bits (mask : List UInt8) : (mask.flatMap bits).count true = setBits mask := by
  induction mask with
  | nil => rfl
  | cons b rest ih =>
      have hbyte : (bits b).count true = (List.range 8).countP b.toNat.testBit := by
        rw [bits, List.count, List.countP_map]
        exact List.countP_congr fun i _ => by simp
      rw [List.flatMap_cons, List.count_append, ih, hbyte, setBits]

theorem setBits_le (mask : List UInt8) : setBits mask ≤ 8 * mask.length := by
  induction mask with
  | nil => exact Nat.le_refl 0
  | cons b rest ih =>
      have hbyte : (List.range 8).countP b.toNat.testBit ≤ 8 := List.countP_le_length
      rw [setBits, List.length_cons]
      omega

theorem toNat_maskPrefixLength {mask : List UInt8} (hmask : mask.length ≤ 16) :
    (maskPrefixLength mask).toNat = setBits mask := by
  have hle := setBits_le mask
  rw [maskPrefixLength, count_bits, UInt8.toNat_ofNat', Nat.mod_eq_of_lt]
  omega

namespace Unix

/-! ## Flag words -/

theorem testBit_iff_and (flags : UInt32) {i : Nat} {mask : UInt32} (hmask : mask.toNat = 2 ^ i) :
    flags.toNat.testBit i = true ↔ flags &&& mask ≠ 0 := by
  have hand : (flags &&& mask).toNat = (flags.toNat.testBit i).toNat * 2 ^ i := by
    rw [UInt32.toNat_and, hmask, Nat.and_two_pow]
  rw [ne_eq, ← UInt32.toNat_inj, hand]
  cases flags.toNat.testBit i <;> simp

/-! ## Entries and records -/

/-- Whether the entry has a name and an internet address. -/
def InterfaceEntry.isComplete (e : InterfaceEntry) : Bool :=
  e.name.isSome &&
    e.address.any fun a => a.family = SocketAddress.inetFamily ∨ a.family = inet6Family

/-- The record says what the entry says. The family of the address decides the layout in which both
the address and the mask are read. -/
structure Denotes (e : InterfaceEntry) (r : AddressRecord) : Prop where
  interface : ∃ bytes, e.name = some bytes ∧
    r.interface = String.ofList (Text.decodeLossy (bytes.takeWhile (· ≠ 0))) ∧
    ∀ text, bytes.takeWhile (· ≠ 0) = Text.utf8 text → r.interface = String.ofList text
  address : ∃ a, e.address = some a ∧
    (a.family = SocketAddress.inetFamily ∧ r.family = .ipv4 ∨
      a.family = inet6Family ∧ r.family = .ipv6) ∧
    r.address.toBytes = a.addressBytes r.family
  unmasked : e.mask = none → r.prefixLength = 0
  masked : ∀ mask, e.mask = some mask →
    r.prefixLength.toNat = setBits (mask.addressBytes r.family)
  isUp : r.isUp = true ↔ e.flags &&& 1 ≠ 0
  isLoopback : r.isLoopback = true ↔ e.flags &&& 8 ≠ 0

theorem inet6Family_ne : inet6Family ≠ SocketAddress.inetFamily := by decide

/-- An entry has at most one address to denote. -/
theorem Denotes.address_eq {e : InterfaceEntry} {r r' : AddressRecord} (h : Denotes e r)
    (h' : Denotes e r') : r.address = r'.address := by
  obtain ⟨a, haddress, hx⟩ := h.address
  obtain ⟨a', haddress', hx'⟩ := h'.address
  obtain rfl : a = a' := Option.some.inj (haddress.symm.trans haddress')
  exact SocketAddress.eq_of_layout inet6Family_ne hx hx'

/-- An entry denotes at most one record. -/
theorem Denotes.unique {e : InterfaceEntry} {r r' : AddressRecord} (h : Denotes e r)
    (h' : Denotes e r') : r = r' := by
  obtain ⟨bytes, hname, hinterface, -⟩ := h.interface
  obtain ⟨bytes', hname', hinterface', -⟩ := h'.interface
  obtain rfl : bytes = bytes' := Option.some.inj (hname.symm.trans hname')
  have hip := h.address_eq h'
  have hsame : r.family = r'.family := congrArg IpAddr.family hip
  have hprefix : r.prefixLength = r'.prefixLength := by
    cases hmask : e.mask with
    | none => rw [h.unmasked hmask, h'.unmasked hmask]
    | some mask =>
        rw [← UInt8.toNat_inj, h.masked mask hmask, h'.masked mask hmask, hsame]
  have hinterfaces : r.interface = r'.interface := hinterface.trans hinterface'.symm
  have hup : r.isUp = r'.isUp := Bool.eq_iff_iff.mpr (h.isUp.trans h'.isUp.symm)
  have hloopback : r.isLoopback = r'.isLoopback :=
    Bool.eq_iff_iff.mpr (h.isLoopback.trans h'.isLoopback.symm)
  exact AddressRecord.ext hinterfaces hip hprefix hup hloopback

namespace InterfaceEntry

variable {e : InterfaceEntry}

/-- The prefix length of a mask is the number of its set bits, of which the layout has no more than
the address. -/
theorem toNat_prefixLength {mask : SocketAddress} (hmask : e.mask = some mask) (f : AddressFamily) :
    (e.prefixLength f).toNat = setBits (mask.addressBytes f) := by
  rw [prefixLength, hmask]
  refine toNat_maskPrefixLength ?_
  cases f with
  | ipv4 =>
      rw [SocketAddress.addressBytes, SocketAddress.length_window]
      decide
  | ipv6 => exact Nat.le_of_eq (SocketAddress.length_window _ _ _)

theorem prefixLength_le (f : AddressFamily) : e.prefixLength f ≤ f.maxPrefixLength := by
  cases hmask : e.mask with
  | none =>
      rw [prefixLength, hmask]
      exact UInt8.zero_le
  | some mask =>
      rw [UInt8.le_iff_toNat_le, toNat_prefixLength hmask, ← mask.length_addressBytes]
      exact setBits_le _

theorem record?_eq_some_iff {r : AddressRecord} : e.record? = some r ↔
    ∃ a x name, e.address = some a ∧ a.ip? inet6Family = some x ∧ e.name = some name ∧
      r = ⟨nameText name, x, e.prefixLength x.family, e.isUp, e.isLoopback⟩ := by
  -- A mask has no more bits in the layout than the address, so that nothing is clamped.
  have hclamped : ∀ name x, AddressRecord.clamped name x (e.prefixLength x.family) e.isUp
      e.isLoopback = ⟨name, x, e.prefixLength x.family, e.isUp, e.isLoopback⟩ := by
    intro name x
    have hmin : min (e.prefixLength x.family) x.family.maxPrefixLength = e.prefixLength x.family :=
      if_pos (prefixLength_le _)
    rw [AddressRecord.clamped, hmin]
  rw [record?]
  simp only [bind, Option.bind_eq_some_iff, Option.some_inj, hclamped, eq_comm (b := r)]
  tauto

/-- Exactly the complete entries have a record. -/
theorem isSome_record? : e.record?.isSome = e.isComplete := by
  rw [Bool.eq_iff_iff, Option.isSome_iff_exists, isComplete, Bool.and_eq_true, Option.any_eq_true]
  simp only [decide_eq_true_eq, record?_eq_some_iff]
  constructor
  · rintro ⟨r, a, x, name, ha, hx, hname, -⟩
    have hfamily := (SocketAddress.isSome_ip? inet6Family_ne).mp (Option.isSome_of_eq_some hx)
    exact ⟨Option.isSome_of_eq_some hname, a, ha, hfamily⟩
  · rintro ⟨hname, a, ha, hfamily⟩
    obtain ⟨name, hname⟩ := Option.isSome_iff_exists.mp hname
    obtain ⟨x, hx⟩ := Option.isSome_iff_exists.mp
      ((SocketAddress.isSome_ip? inet6Family_ne).mpr hfamily)
    exact ⟨_, a, x, name, ha, hx, hname, rfl⟩

theorem denotes_of_record? {r : AddressRecord} (hr : e.record? = some r) : Denotes e r := by
  obtain ⟨a, x, name, ha, hx, hname, rfl⟩ := record?_eq_some_iff.mp hr
  obtain ⟨hfamily, hbytes⟩ := SocketAddress.of_ip? inet6Family_ne hx
  exact
    { interface := by
        refine ⟨name, hname, rfl, fun text htext => ?_⟩
        rw [nameText, htext, Text.decodeLossy_utf8]
      address := ⟨a, ha, hfamily, hbytes⟩
      unmasked := fun hmask => by rw [prefixLength, hmask]
      masked := fun mask hmask => toNat_prefixLength hmask _
      isUp := testBit_iff_and e.flags rfl
      isLoopback := testBit_iff_and e.flags rfl }

end InterfaceEntry

/-- The complete entries and the records of the list belong to each other one by one. -/
theorem forall₂_records (entries : List InterfaceEntry) :
    List.Forall₂ Denotes (entries.filter (·.isComplete)) (records entries) := by
  induction entries with
  | nil => exact .nil
  | cons e rest ih =>
      rw [records] at ih ⊢
      cases hr : e.record? with
      | none =>
          have hincomplete : ¬ e.isComplete = true := by
            rw [← InterfaceEntry.isSome_record?, hr]
            exact Bool.false_ne_true
          rw [List.filter_cons_of_neg hincomplete, List.filterMap_cons_none hr]
          exact ih
      | some r =>
          have hcomplete : e.isComplete = true := by
            rw [← InterfaceEntry.isSome_record?, hr]
            rfl
          rw [List.filter_cons_of_pos hcomplete, List.filterMap_cons_some hr]
          exact .cons (InterfaceEntry.denotes_of_record? hr) ih

/-- Entries denote their records in no more than one way. -/
theorem eq_of_forall₂_denotes {entries : List InterfaceEntry} {rs rs' : List AddressRecord}
    (h : List.Forall₂ Denotes entries rs) (h' : List.Forall₂ Denotes entries rs') : rs = rs' := by
  have hunique : Relator.RightUnique Denotes := fun _ _ _ hr hr' => hr.unique hr'
  exact hunique.forall₂ h h'

/-! ## Enumerations -/

/-- **Enumerations.** If there is an interface list, an enumeration has no error and finds, in the
order of the list, what the filter accepts of the records that the complete entries denote. If there
is none, it finds nothing and has an error with the number of the failure, where that is not
zero. -/
theorem enumeration (accepts : AddressRecord → Bool) :
    (∀ entries, ∃ rs, List.Forall₂ Denotes (entries.filter (·.isComplete)) rs ∧
      (∀ rs', List.Forall₂ Denotes (entries.filter (·.isComplete)) rs' → rs' = rs) ∧
      (fetch (.ok entries)).enumerateWith accepts = ⟨rs.filter accepts, none⟩) ∧
    ∀ errno, ((fetch (.error errno)).enumerateWith accepts).records = [] ∧
      ((fetch (.error errno)).enumerateWith accepts).isError = true ∧
      (errno ≠ 0 → ((fetch (.error errno)).enumerateWith accepts).errorCode = errno) := by
  refine ⟨fun entries => ?_, fun errno => ⟨rfl, rfl, fun hne => ?_⟩⟩
  · have hall := forall₂_records entries
    exact ⟨records entries, hall, fun rs' h' => eq_of_forall₂_denotes h' hall, rfl⟩
  · have hcode : (SystemError.errno errno).codeOr 4 = errno := by
      rw [SystemError.codeOr, SystemError.number?, Option.filter_some,
        if_pos (decide_eq_true hne)]
      rfl
    exact hcode

/-- An interface list with an entry of another family, one without a name, a mask that claims
another family, no mask at all, and a name with a malformed byte before its end. -/
def mixedEntries : List InterfaceEntry :=
  [ ⟨some [101, 116, 104, 48], 1, some (.ofFamily 17), none⟩,
    ⟨none, 1, some (.ofIp (.v4 ⟨10, 0, 0, 1⟩) 2 0), none⟩,
    ⟨some [101, 116, 104, 48], 1, some (.ofIp (.v4 ⟨10, 0, 0, 2⟩) 2 0),
      some (.ofIp (.v4 ⟨255, 255, 0, 255⟩) 10 0)⟩,
    ⟨some [108, 111, 0, 120], 9, some (.ofIp (.v6 ⟨0, 0, 0, 0, 0, 0, 0, 1⟩) 10 0),
      some (.ofIp (.v6 ⟨0xffff, 0xffff, 0, 0, 0, 0, 0, 0⟩) 17 0)⟩,
    ⟨some [119, 0xff, 48, 0, 120], 0, some (.ofIp (.v6 ⟨0xfe80, 0, 0, 0, 0, 0, 0, 5⟩) 10 2), none⟩ ]

/-- The two entries without an address or a name have no record, and the loopback interface is
filtered out. -/
theorem enumeration_of_mixedEntries :
    (fetch (.ok mixedEntries)).enumerateWith (!·.isLoopback) =
      ⟨[⟨"eth0", .v4 ⟨10, 0, 0, 2⟩, 24, true, false⟩,
        ⟨"w\uFFFD0", .v6 ⟨0xfe80, 0, 0, 0, 0, 0, 0, 5⟩, 0, false, false⟩], none⟩ ∧
    ((fetch (.error 12)).enumerateWith (!·.isLoopback)).errorCode = 12 := by
  obtain ⟨hok, herror⟩ := enumeration (!·.isLoopback)
  obtain ⟨rs, -, hunique, henumerated⟩ := hok mixedEntries
  obtain ⟨-, -, hcode⟩ := herror 12
  refine ⟨?_, hcode (by decide)⟩
  rw [henumerated, ← hunique _ (forall₂_records mixedEntries)]
  decide +kernel

end Unix

end AddressWatch
