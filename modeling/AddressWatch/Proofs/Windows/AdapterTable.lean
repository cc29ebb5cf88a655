/-
  AddressWatch.Proofs.Windows.AdapterTable

  How the addresses of the adapters are fetched. The table is asked for once, and a second time only
  if the first size was too small, with a buffer of the size that the first answer said
  (`System.Exchange`); the system is never told of more room than the buffer has
  (`Exchange.room`). The last answer decides: without an error there is one record for each internet
  address of each adapter that has a name (`forall₂_records`), and with an error the fetch fails
  with it (`fetch_of_acquired`).
-/

import Mathlib.Data.List.Forall2
import AddressWatch.Proofs.SocketAddress
import AddressWatch.Proofs.Text.Utf16
import AddressWatch.Proofs.Windows.Balance

namespace AddressWatch.Windows

/-! ## Addresses and records -/

/-- The address is there and of an internet family. -/
def UnicastAddress.isInternet (u : UnicastAddress) : Bool :=
  u.address.any fun x => x.family = SocketAddress.inetFamily ∨ x.family = inet6Family

namespace Adapter

/-- The code units of the name. -/
def nameUnits (a : Adapter) : List UInt16 := a.name.takeWhile (· ≠ 0)

/-- The adapter has a name that can be read: its code units are those of a text. -/
def Named (a : Adapter) : Prop := ∃ text, Text.utf16 text = a.nameUnits

theorem named_iff {a : Adapter} : a.Named ↔ (Text.decodeUtf16? a.nameUnits).isSome = true := by
  rw [Option.isSome_iff_exists, Named]
  simp only [Text.decodeUtf16?_eq_some_iff]

instance (a : Adapter) : Decidable a.Named := decidable_of_iff _ named_iff.symm

end Adapter

/-- The internet addresses of the adapters that have a name, in the order of the table. -/
def internetAddresses (adapters : List Adapter) : List (Adapter × UnicastAddress) :=
  (adapters.filter (·.Named)).flatMap fun a =>
    (a.addresses.filter (·.isInternet)).map fun u => (a, u)

theorem internetAddresses_of_named {a : Adapter} (ha : a.Named) (rest : List Adapter) :
    internetAddresses (a :: rest) =
      (a.addresses.filter (·.isInternet)).map (fun u => (a, u)) ++ internetAddresses rest := by
  have hfilter : (a :: rest).filter (·.Named) = a :: rest.filter (·.Named) :=
    List.filter_cons_of_pos (decide_eq_true ha)
  rw [internetAddresses, hfilter, List.flatMap_cons, internetAddresses]

theorem internetAddresses_of_unnamed {a : Adapter} (ha : ¬ a.Named) (rest : List Adapter) :
    internetAddresses (a :: rest) = internetAddresses rest := by
  have hfilter : (a :: rest).filter (·.Named) = rest.filter (·.Named) :=
    List.filter_cons_of_neg (by rwa [decide_eq_true_eq])
  rw [internetAddresses, hfilter, internetAddresses]

/-- The record says what the adapter and its address say. The family of the address decides in which
layout it is read and how long its prefix can be. -/
structure Denotes (source : Adapter × UnicastAddress) (r : AddressRecord) : Prop where
  interface : Text.utf16 r.interface.toList = source.1.nameUnits
  address : ∃ x, source.2.address = some x ∧
    (x.family = SocketAddress.inetFamily ∧ r.family = .ipv4 ∨
      x.family = inet6Family ∧ r.family = .ipv6) ∧
    r.address.toBytes = x.addressBytes r.family
  prefixLength : r.prefixLength.toNat =
    min source.2.prefixLength.toNat (if r.family = .ipv4 then 32 else 128)
  isUp : r.isUp = true ↔ source.1.operationalStatus = 1
  isLoopback : r.isLoopback = true ↔ source.1.type = 24

theorem inet6Family_ne : inet6Family ≠ SocketAddress.inetFamily := by decide

/-- An address of an adapter denotes at most one record. -/
theorem Denotes.unique {source : Adapter × UnicastAddress} {r r' : AddressRecord}
    (h : Denotes source r) (h' : Denotes source r') : r = r' := by
  obtain ⟨x, haddress, hx⟩ := h.address
  obtain ⟨x', haddress', hx'⟩ := h'.address
  obtain rfl : x = x' := Option.some.inj (haddress.symm.trans haddress')
  have hip : r.address = r'.address := SocketAddress.eq_of_layout inet6Family_ne hx hx'
  have hfamily : r.family = r'.family := congrArg IpAddr.family hip
  have hinterface : r.interface = r'.interface := by
    have htext := Text.utf16_injective (h.interface.trans h'.interface.symm)
    exact String.toList_inj.mp htext
  have hlength : r.prefixLength = r'.prefixLength := by
    rw [← UInt8.toNat_inj, h.prefixLength, h'.prefixLength, hfamily]
  have hup : r.isUp = r'.isUp := Bool.eq_iff_iff.mpr (h.isUp.trans h'.isUp.symm)
  have hloopback : r.isLoopback = r'.isLoopback :=
    Bool.eq_iff_iff.mpr (h.isLoopback.trans h'.isLoopback.symm)
  exact AddressRecord.ext hinterface hip hlength hup hloopback

/-! ## The records of a table -/

namespace UnicastAddress

variable {u : UnicastAddress}

theorem entry?_eq_some_iff {entry : IpAddr × UInt8} : u.entry? = some entry ↔
    ∃ x, u.address = some x ∧ x.ip? inet6Family = some entry.1 ∧ u.prefixLength = entry.2 := by
  obtain ⟨ip, prefixLength⟩ := entry
  unfold entry?
  rw [Option.map_eq_some_iff]
  simp only [Option.bind_eq_some_iff, Prod.mk.injEq]
  constructor
  · rintro ⟨_, ⟨x, hx, hip⟩, rfl, hlength⟩
    exact ⟨x, hx, hip, hlength⟩
  · rintro ⟨x, hx, hip, hlength⟩
    exact ⟨ip, ⟨x, hx, hip⟩, rfl, hlength⟩

/-- Exactly the internet addresses have an entry. -/
theorem isSome_entry? : u.entry?.isSome = u.isInternet := by
  unfold entry?
  rw [Bool.eq_iff_iff, Option.isSome_map, Option.isSome_bind, isInternet, Option.any_eq_true,
    Option.any_eq_true]
  simp only [SocketAddress.isSome_ip? inet6Family_ne, decide_eq_true_eq]

end UnicastAddress

/-- A prefix length is cut to the length of the address. -/
theorem toNat_clamped (p : UInt8) (f : AddressFamily) :
    (min p f.maxPrefixLength).toNat = min p.toNat (if f = .ipv4 then 32 else 128) := by
  have hmax : f.maxPrefixLength.toNat = if f = .ipv4 then 32 else 128 := by
    cases f <;> rfl
  rw [← hmax]
  by_cases hp : p ≤ f.maxPrefixLength
  · have hmin : min p f.maxPrefixLength = p := if_pos hp
    rw [hmin, Nat.min_eq_left (UInt8.le_iff_toNat_le.mp hp)]
  · have hmin : min p f.maxPrefixLength = f.maxPrefixLength := if_neg hp
    have hlt : f.maxPrefixLength.toNat < p.toNat := by
      rw [UInt8.le_iff_toNat_le] at hp
      omega
    rw [hmin, Nat.min_eq_right (Nat.le_of_lt hlt)]

namespace Adapter

variable {a : Adapter}

/-- An adapter without a name has no entry. -/
theorem entry?_of_unnamed (ha : ¬ a.Named) : a.entry? = none := by
  rw [named_iff, Option.not_isSome_iff_eq_none] at ha
  unfold entry?
  rw [← nameUnits, ha]
  rfl

/-- The record of an internet address of an adapter that has a name. -/
theorem denotes_clamped {name : List Char} (hname : Text.utf16 name = a.nameUnits)
    {u : UnicastAddress} {entry : IpAddr × UInt8} (hu : u.entry? = some entry) :
    Denotes (a, u) (.clamped (String.ofList name) entry.1 entry.2
      (a.operationalStatus = upStatus) (a.type = loopbackType)) := by
  obtain ⟨x, hx, hip, hlength⟩ := UnicastAddress.entry?_eq_some_iff.mp hu
  obtain ⟨hfamily, hbytes⟩ := SocketAddress.of_ip? inet6Family_ne hip
  exact
    { interface := by
        rw [AddressRecord.clamped, String.toList_ofList]
        exact hname
      address := ⟨x, hx, hfamily, hbytes⟩
      prefixLength := by
        rw [hlength]
        exact toNat_clamped entry.2 entry.1.family
      isUp := decide_eq_true_iff
      isLoopback := decide_eq_true_iff }

/-- The internet addresses of an adapter with a name and its records belong to each other one by
one. -/
theorem forall₂_records_of_named {e : AdapterEntry} (he : a.entry? = some e) :
    List.Forall₂ Denotes ((a.addresses.filter (·.isInternet)).map fun u => (a, u)) e.records := by
  obtain ⟨name, hread, rfl⟩ := Option.map_eq_some_iff.mp he
  have hname : Text.utf16 name = a.nameUnits := Text.decodeUtf16?_eq_some_iff.mp hread
  rw [AdapterEntry.records]
  -- The name and the state are the adapter's while the induction runs over its addresses.
  generalize a.addresses = units
  induction units with
  | nil => exact .nil
  | cons u rest ih =>
      cases hu : u.entry? with
      | none =>
          have hother : ¬ u.isInternet = true := by
            rw [← UnicastAddress.isSome_entry?, hu]
            exact Bool.false_ne_true
          rw [List.filter_cons_of_neg hother, List.filterMap_cons_none hu]
          exact ih
      | some entry =>
          have hinternet : u.isInternet = true := by
            rw [← UnicastAddress.isSome_entry?, hu]
            rfl
          rw [List.filter_cons_of_pos hinternet, List.filterMap_cons_some hu, List.map_cons,
            List.map_cons]
          exact .cons (denotes_clamped hname hu) ih

end Adapter

/-- The internet addresses of the adapters with names and the records of the table belong to each
other one by one. -/
theorem forall₂_records (adapters : List Adapter) :
    List.Forall₂ Denotes (internetAddresses adapters)
      ((adapters.filterMap Adapter.entry?).flatMap AdapterEntry.records) := by
  induction adapters with
  | nil => exact .nil
  | cons a rest ih =>
      -- An adapter stands for a block of records if it has a name, and otherwise for none.
      by_cases hnamed : a.Named
      · obtain ⟨name, hname⟩ := hnamed
        have hread := Text.decodeUtf16?_eq_some_iff.mpr hname
        have he : a.entry? = some _ := Option.map_eq_some_iff.mpr ⟨name, hread, rfl⟩
        rw [internetAddresses_of_named ⟨name, hname⟩, List.filterMap_cons_some he,
          List.flatMap_cons]
        exact List.rel_append (Adapter.forall₂_records_of_named he) ih
      · rw [internetAddresses_of_unnamed hnamed,
          List.filterMap_cons_none (Adapter.entry?_of_unnamed hnamed)]
        exact ih

/-- The addresses of a table denote their records in no more than one way. -/
theorem eq_of_forall₂_denotes {sources : List (Adapter × UnicastAddress)}
    {rs rs' : List AddressRecord} (h : List.Forall₂ Denotes sources rs)
    (h' : List.Forall₂ Denotes sources rs') : rs = rs' := by
  have hunique : Relator.RightUnique Denotes := fun _ _ _ hr hr' => hr.unique hr'
  exact hunique.forall₂ h h'

/-! ## Requests for the table -/

namespace System

/-- A request for the table: the buffer that it was made with and the size that the system was told,
and the code and the size that it was answered with. -/
structure Request where
  buffer : Buffer
  size : UInt32
  code : UInt32
  reported : UInt32

/-- The call that makes the request. -/
def Request.call (q : Request) : Call := .adapters anyFamily tableFlags q.buffer q.size

/-- The request was made with a buffer of a length, and the system was told this length. -/
structure Request.HasRoom (q : Request) (length : Nat) : Prop where
  buffer : q.buffer.length = length
  size : q.size.toNat = length

/-- The request with a buffer and a size, as the system answers it. -/
def request (s : System) (buffer : Buffer) (size : UInt32) : Request :=
  let answer := s.adapterTable anyFamily tableFlags buffer size
  ⟨buffer, size, answer.1, answer.2.1⟩

/-- The system after a request. -/
def requested (s : System) (buffer : Buffer) (size : UInt32) : System :=
  (s.adapterTable anyFamily tableFlags buffer size).2.2

/-- From the one system to the other, the requests are made in order and answered. -/
inductive Answers : System → List Request → System → Prop
  | none {s : System} : Answers s [] s
  | next {s s' : System} {buffer : Buffer} {size : UInt32} {rest : List Request}
      (answers : Answers (s.requested buffer size) rest s') :
      Answers s (s.request buffer size :: rest) s'

/-- The requests of one fetch: one with a buffer of the first size and, exactly if that was too
small, one more with a buffer of the size that was reported. -/
inductive Exchange : List Request → Prop
  | once {q : Request} (first : q.HasRoom 16384) (answer : q.code ≠ bufferOverflow) : Exchange [q]
  | twice {q q' : Request} (first : q.HasRoom 16384) (answer : q.code = bufferOverflow)
      (second : q'.HasRoom q.reported.toNat) : Exchange [q, q']

theorem Request.HasRoom.agrees {q : Request} {length : Nat} (hq : q.HasRoom length) :
    q.size.toNat = q.buffer.length := hq.size.trans hq.buffer.symm

/-- In every request the system is told the length of the buffer that it writes to. -/
theorem Exchange.room {requests : List Request} (h : Exchange requests) :
    ∀ q ∈ requests, q.size.toNat = q.buffer.length := by
  cases h with
  | once first _ => exact List.forall_mem_singleton.mpr first.agrees
  | twice first _ second =>
      exact List.forall_mem_cons.mpr
        ⟨first.agrees, List.forall_mem_singleton.mpr second.agrees⟩

section Answers

variable {s s' : System} {requests : List Request}

theorem Answers.adapters (h : Answers s requests s') : s'.adapters = s.adapters := by
  induction h with
  | none => rfl
  | next _ ih =>
      rw [ih, requested, adapterTable_eq]
      rfl

/-- Every request is a call, and nothing else is called. -/
theorem Answers.calls (h : Answers s requests s') :
    s'.calls = (requests.map Request.call).reverse ++ s.calls := by
  induction h with
  | none => rfl
  | @next s s' buffer size rest _ ih =>
      have hcall : (s.requested buffer size).calls = (s.request buffer size).call :: s.calls := by
        rw [requested, adapterTable_eq]
        rfl
      rw [ih, hcall, List.map_cons, List.reverse_cons, List.append_assoc, List.singleton_append]

/-- The table is asked for in an exchange of requests, and the last code is the answer. -/
theorem exists_exchange (s : System) : ∃ requests last,
    Answers s requests s.askTable.2 ∧ Exchange requests ∧ requests.getLast? = some last ∧
      s.askTable.1 = last.code := by
  let buffer : Buffer := ⟨firstSize.toNat⟩
  let first := s.request buffer firstSize
  let s₁ := s.requested buffer firstSize
  by_cases hsmall : first.code = bufferOverflow
  · -- A second request follows, with a buffer of the reported size.
    let resized := buffer.resize first.reported.toNat
    let second := s₁.request resized first.reported
    have hask : s.askTable = (second.code, s₁.requested resized first.reported) := if_pos hsmall
    refine ⟨[first, second], second, ?_, .twice ⟨rfl, rfl⟩ hsmall ⟨rfl, rfl⟩, rfl, ?_⟩
    · rw [hask]
      exact .next (.next .none)
    · rw [hask]
  · have hask : s.askTable = (first.code, s₁) := if_neg hsmall
    refine ⟨[first], first, ?_, .once ⟨rfl, rfl⟩ hsmall, rfl, ?_⟩
    · rw [hask]
      exact .next .none
    · rw [hask]

end Answers

/-! ## A fetch -/

section Fetch

variable {s : System}

/-- Taking a reference leaves the table as it is, and does not ask for it. -/
theorem acquire_frame (s : System) : s.acquire.2.adapters = s.adapters ∧
    s.acquire.2.calls.filter Call.asks = s.calls.filter Call.asks := by
  rcases acquire_cases s with ⟨-, hacquire⟩ | ⟨-, -, hacquire⟩ | ⟨-, -, hacquire⟩
  · rw [hacquire]
    exact ⟨rfl, rfl⟩
  · rw [hacquire]
    exact ⟨rfl, rfl⟩
  · rw [hacquire]
    exact ⟨rfl, rfl⟩

/-- Giving a reference back does not ask for the table. -/
theorem filter_asks_release (s : System) :
    s.release.calls.filter Call.asks = s.calls.filter Call.asks := by
  rw [calls_release]
  split <;> rfl

theorem filter_asks_requests (requests : List Request) :
    ((requests.map Request.call).reverse).filter Call.asks = (requests.map Request.call).reverse := by
  rw [List.filter_eq_self]
  intro c hc
  obtain ⟨q, -, rfl⟩ := List.mem_map.mp (List.mem_reverse.mp hc)
  rfl

/-- **Fetching.** Once the reference to the socket library is taken, a fetch makes an exchange of
requests, which are all its calls for the table, and gives the reference back. In every request the
system is told the length of the buffer. If the last request is answered without an error, the
records are those that the internet addresses of the adapters with names denote, in the order of the
table. Otherwise the fetch fails with the last answer. -/
theorem fetch_of_acquired (ha : s.acquire.1 = .ok ()) :
    ∃ requests last s', Answers s.acquire.2 requests s' ∧ Exchange requests ∧
      (∀ q ∈ requests, q.size.toNat = q.buffer.length) ∧
      requests.getLast? = some last ∧ s.fetch.2 = s'.release ∧
      s.fetch.2.calls.filter Call.asks =
        (requests.map Request.call).reverse ++ s.calls.filter Call.asks ∧
      (last.code = noError → ∃ adapters rs, s.fetchAdapters.1 = .ok adapters ∧
        s.fetch.1 = .ok rs ∧ List.Forall₂ Denotes (internetAddresses s.adapters) rs ∧
        ∀ rs', List.Forall₂ Denotes (internetAddresses s.adapters) rs' → rs' = rs) ∧
      (last.code ≠ noError → s.fetchAdapters.1 = .error (.windows (s.failure last.code)) ∧
        s.fetch.1 = .error (.windows (s.failure last.code))) := by
  obtain ⟨requests, last, hanswers, hexchange, hlast, hcode⟩ := exists_exchange s.acquire.2
  -- The adapters that are read are those of the system before the fetch: no call changes them.
  obtain ⟨hadapters, hasks⟩ := acquire_frame s
  have hfirst := congrArg Prod.fst (fetchAdapters_of_ok ha)
  rw [hcode, hanswers.adapters, hadapters] at hfirst
  have hsecond : s.fetch.2 = s.acquire.2.askTable.2.release :=
    congrArg Prod.snd (fetchAdapters_of_ok ha)
  have hfetch : s.fetch.1 =
      s.fetchAdapters.1.map fun entries => entries.flatMap AdapterEntry.records := rfl
  refine ⟨requests, last, _, hanswers, hexchange, hexchange.room, hlast, hsecond, ?_,
    fun hok => ?_, fun hne => ?_⟩
  · rw [hsecond, filter_asks_release, hanswers.calls, List.filter_append, filter_asks_requests,
      hasks]
  · have hall := forall₂_records s.adapters
    rw [if_pos hok] at hfirst
    refine ⟨_, _, hfirst, ?_, hall, fun rs' h' => eq_of_forall₂_denotes h' hall⟩
    rw [hfetch, hfirst]
    rfl
  · rw [if_neg hne] at hfirst
    refine ⟨hfirst, ?_⟩
    rw [hfetch, hfirst]
    rfl

/-- A table that is larger than the first size. Its first adapter has an address that is missing, one
of another family, one with a prefix length that is too long, and an IPv6 address; the name of the
second one is cut within a surrogate pair. -/
def largeTable : System where
  tableCodes := [111]
  needed := 20000
  words hresult := if hresult = -2147024891 then "Access is denied. (0x80070005)" else ""
  adapters :=
    [ ⟨7, 9, [0x45, 0xD835, 0xDD38, 0, 0x78], 1, 6,
        [⟨none, 24⟩, ⟨some (.ofFamily 17), 24⟩, ⟨some (.ofIp (.v4 ⟨10, 0, 0, 1⟩) 2 0), 200⟩,
          ⟨some (.ofIp (.v6 ⟨0xfe80, 0, 0, 0, 0, 0, 0, 5⟩) 23 7), 64⟩]⟩,
      ⟨8, 8, [0x45, 0xD835, 0, 0xDD38], 1, 6, [⟨some (.ofIp (.v4 ⟨10, 0, 0, 2⟩) 2 0), 24⟩]⟩,
      ⟨1, 1, [0x6c, 0x6f], 2, 24, [⟨some (.ofIp (.v4 ⟨127, 0, 0, 1⟩) 2 0), 8⟩]⟩ ]

/-- The table is asked for twice, and three records are read from it. A second answer that is an
error is the one that is returned. -/
theorem fetch_of_largeTable :
    largeTable.fetch.1 = .ok
      [⟨"E𝔸", .v4 ⟨10, 0, 0, 1⟩, 32, true, false⟩,
        ⟨"E𝔸", .v6 ⟨0xfe80, 0, 0, 0, 0, 0, 0, 5⟩, 64, true, false⟩,
        ⟨"lo", .v4 ⟨127, 0, 0, 1⟩, 8, false, true⟩] ∧
    largeTable.fetch.2.calls.filter Call.asks =
      [.adapters 0 0x1e ⟨20000⟩ 20000, .adapters 0 0x1e ⟨16384⟩ 16384] ∧
    { largeTable with tableCodes := [111, 5] }.fetch.1 =
      .error (.windows ⟨-2147024891, "Access is denied. (0x80070005)"⟩) := by
  have ha : largeTable.acquire.1 = .ok () := rfl
  obtain ⟨requests, last, s', -, -, -, -, -, -, hok, herror⟩ := fetch_of_acquired ha
  have hread : largeTable.fetchAdapters.1.isOk = true := by decide +kernel
  have hcode : last.code = noError := by
    by_contra hne
    rw [(herror hne).1] at hread
    cases hread
  obtain ⟨_, rs, -, hrs, -, hunique⟩ := hok hcode
  refine ⟨?_, by decide +kernel, by decide +kernel⟩
  rw [hrs, ← hunique _ (forall₂_records largeTable.adapters)]
  decide +kernel

end Fetch

end System

end AddressWatch.Windows
