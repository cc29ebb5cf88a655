/-
  AddressWatch.Proofs.Enumeration

  What enumerations of one table have to do with each other. A record needs certain flags, and is let
  through by the flags that are set wherever it needs one (`accepts_iff_within`), so more flags never
  leave out a record. The presets for one version of addresses divide the preset for both, and name
  patterns may be applied with the flags or after them (`presets`).
-/

import Mathlib.Data.List.Basic
import AddressWatch.Enumeration

namespace AddressWatch

/-! ## Flags -/

namespace InclusionFlags

/-- Each flag that is set in `f` is set in `g`. -/
structure Within (f g : InclusionFlags) : Prop where
  ipv6 : f.ipv6 = true → g.ipv6 = true
  loopback : f.loopback = true → g.loopback = true
  down : f.down = true → g.down = true

theorem Within.trans {f g h : InclusionFlags} (hfg : f.Within g) (hgh : g.Within h) :
    f.Within h where
  ipv6 := hgh.ipv6 ∘ hfg.ipv6
  loopback := hgh.loopback ∘ hfg.loopback
  down := hgh.down ∘ hfg.down

theorem within_everything (f : InclusionFlags) : f.Within everything where
  ipv6 _ := rfl
  loopback _ := rfl
  down _ := rfl

/-- The flags without which a record is left out. -/
def needed (r : AddressRecord) : InclusionFlags where
  ipv6 := r.family == .ipv6
  loopback := r.isLoopback
  down := !r.isUp

/-- Flags let a record through exactly if those that it needs are set. -/
theorem accepts_iff_within {f : InclusionFlags} {r : AddressRecord} :
    f.accepts r = true ↔ (needed r).Within f := by
  -- Each of the three tests asks that a flag is set or that the record does not need it.
  have himp : ∀ a b : Bool, (a || !b) = true ↔ (b = true → a = true) := by decide
  have hup : ∀ a b : Bool, (a || b) = true ↔ ((!b) = true → a = true) := by decide
  rw [accepts, bne, Bool.and_eq_true, Bool.and_eq_true, himp, himp, hup]
  constructor
  · rintro ⟨⟨hipv6, hdown⟩, hloopback⟩
    exact ⟨hipv6, hloopback, hdown⟩
  · intro h
    exact ⟨⟨h.ipv6, h.down⟩, h.loopback⟩

theorem accepts_of_within {f g : InclusionFlags} (h : f.Within g) {r : AddressRecord}
    (hr : f.accepts r = true) : g.accepts r = true :=
  accepts_iff_within.mpr ((accepts_iff_within.mp hr).trans h)

theorem everything_accepts (r : AddressRecord) : everything.accepts r = true :=
  accepts_iff_within.mpr (within_everything _)

/-- What flags let through without the one for IPv6 are the IPv4 addresses of what they let
through. -/
theorem accepts_without_ipv6 (f : InclusionFlags) (r : AddressRecord) :
    { f with ipv6 := false }.accepts r = (f.accepts r && r.family == .ipv4) := by
  have hipv4 : (AddressFamily.ipv4 != AddressFamily.ipv6) = true := by decide
  rw [accepts, accepts]
  cases r.family with
  | ipv4 => simp [hipv4]
  | ipv6 => simp

end InclusionFlags

/-! ## Parts of a list -/

/-- Two lists are the parts of a list: each of its records is in exactly one of them, and in both
parts the records are in the order of the whole and as often as there. -/
structure DividedInto (whole first second : List AddressRecord) : Prop where
  exactlyOne : ∀ r ∈ whole, r ∈ first ↔ r ∉ second
  first_sublist : first.Sublist whole
  second_sublist : second.Sublist whole
  length : whole.length = first.length + second.length

theorem dividedInto_filter (keep : AddressRecord → Bool) (whole : List AddressRecord) :
    DividedInto whole (whole.filter keep) (whole.filter fun r => !keep r) where
  exactlyOne r hr := by
    rw [List.mem_filter, List.mem_filter]
    cases keep r <;> simp [hr]
  first_sublist := List.filter_sublist
  second_sublist := List.filter_sublist
  length := List.length_eq_length_filter_add keep

/-! ## Enumerations of a table -/

namespace Table

variable (table : Table)

/-- Keeping some of the enumerated records is enumerating with both conditions. -/
theorem retain_enumerateWith (accepts keep : AddressRecord → Bool) :
    (table.enumerateWith accepts).retain keep =
      table.enumerateWith fun r => accepts r && keep r := by
  cases table with
  | error e => rfl
  | ok records =>
      show AddressList.ofRecords ((records.filter accepts).filter keep) = .ofRecords _
      rw [List.filter_filter]
      exact congrArg (fun p => AddressList.ofRecords (records.filter p))
        (funext fun r => Bool.and_comm _ _)

theorem sublist_enumerateWith {p q : AddressRecord → Bool} (h : ∀ r, p r = true → q r = true) :
    (table.enumerateWith p).records.Sublist (table.enumerateWith q).records := by
  cases table with
  | error e => exact .slnil
  | ok records => exact List.monotone_filter_right records h

theorem enumerate_everything (records : List AddressRecord) :
    Table.enumerate (.ok records) .everything = .ofRecords records := by
  show AddressList.ofRecords (records.filter InclusionFlags.everything.accepts) = _
  rw [List.filter_eq_self.mpr fun r _ => InclusionFlags.everything_accepts r]

/-- The preset for IPv4 gives the IPv4 addresses of the preset for both versions. -/
theorem retain_ipv4_allAddresses :
    table.allAddresses.retain (fun r => r.family == .ipv4) = table.ipv4Addresses := by
  rw [allAddresses, enumerate, retain_enumerateWith, ipv4Addresses, enumerate]
  exact congrArg table.enumerateWith
    (funext fun r => (InclusionFlags.accepts_without_ipv6 .allFamilies r).symm)

theorem ipv4_dividedInto_ipv6 :
    DividedInto table.allAddresses.records table.ipv4Addresses.records
      table.ipv6Addresses.records := by
  -- There is no third version, so what the preset for IPv4 leaves is that for IPv6.
  have hother : (fun r : AddressRecord => !r.family == .ipv4) = fun r => r.family == .ipv6 := by
    funext r
    cases r.family <;> rfl
  have hdivided := dividedInto_filter (fun r => r.family == .ipv4) table.allAddresses.records
  rw [hother] at hdivided
  rw [← retain_ipv4_allAddresses]
  exact hdivided

/-- The flags of a chain let a record through before its matchers do. -/
theorem enumerateWith_withBase (flags : InclusionFlags) (chain : FilterChain) :
    table.enumerateWith (chain.withBase flags).accepts =
      (table.enumerate flags).retain fun r => chain.acceptsName r.interface := by
  rw [enumerate, retain_enumerateWith]
  rfl

/-- **Presets.** More flags let more records through, in the order of the table, and all flags the
whole table. The presets for IPv4 and for IPv6 give the addresses of that version from the preset
for both, and divide it. Enumerating with the flags of a chain is enumerating with the flags and
keeping the records whose interface the chain accepts. -/
theorem presets (table : Table) :
    (∀ f g : InclusionFlags, f.Within g →
      (table.enumerate f).records.Sublist (table.enumerate g).records) ∧
    (∀ records, table = .ok records → table.enumerate .everything = .ofRecords records) ∧
    table.allAddresses.retain (fun r => r.family == .ipv4) = table.ipv4Addresses ∧
    table.allAddresses.retain (fun r => r.family == .ipv6) = table.ipv6Addresses ∧
    DividedInto table.allAddresses.records table.ipv4Addresses.records
      table.ipv6Addresses.records ∧
    ∀ (flags : InclusionFlags) (chain : FilterChain),
      table.enumerateWith (chain.withBase flags).accepts =
        (table.enumerate flags).retain fun r => chain.acceptsName r.interface := by
  refine ⟨fun f g hfg => ?_, ?_, table.retain_ipv4_allAddresses, rfl, table.ipv4_dividedInto_ipv6,
    table.enumerateWith_withBase⟩
  · exact table.sublist_enumerateWith fun r => InclusionFlags.accepts_of_within hfg
  · rintro records rfl
    exact enumerate_everything records

/-- A table of the loopback interface, of one that is down, and of one that is up with an IPv4
address that is reported twice. -/
def repeatingTable : List AddressRecord :=
  [ ⟨"lo", .v6 ⟨0, 0, 0, 0, 0, 0, 0, 1⟩, 128, true, true⟩,
    ⟨"eth0", .v4 ⟨10, 0, 0, 2⟩, 24, true, false⟩,
    ⟨"eth0", .v6 ⟨0xfe80, 0, 0, 0, 0, 0, 0, 2⟩, 64, true, false⟩,
    ⟨"eth1", .v4 ⟨10, 1, 0, 2⟩, 24, false, false⟩,
    ⟨"eth0", .v4 ⟨10, 0, 0, 2⟩, 24, true, false⟩ ]

/-- Both reports are counted in the part for IPv4, and flags for IPv6 and the loopback interface add
two records to the two reports. -/
theorem presets_of_repeatingTable :
    let table : Table := .ok repeatingTable
    (table.enumerate .ipv4Only).records.Sublist
      (table.enumerate { ipv6 := true, loopback := true }).records ∧
    (table.enumerate .ipv4Only).size = 2 ∧
    (table.enumerate { ipv6 := true, loopback := true }).size = 4 ∧
    table.enumerate .everything = .ofRecords repeatingTable ∧
    table.allAddresses.records.length =
      table.ipv4Addresses.records.length + table.ipv6Addresses.records.length := by
  intro table
  obtain ⟨hwiden, hwhole, -, -, hdivided, -⟩ := presets table
  exact ⟨hwiden _ _ ⟨nofun, nofun, nofun⟩, by decide, by decide, hwhole _ rfl, hdivided.length⟩

end Table

end AddressWatch
