/-
  AddressWatch.Proofs.Windows.Multiplicity

  How often a call of a registration emits the same event. Equal notifications of a batch count
  once, so an event about an address of an adapter comes as often as there are different
  notifications for it: notifications under the one or the other index of the adapter, of a type
  that stands for the kind of the event (`event_multiplicity`). An adapter with two indices can be
  notified under both, and then its events come twice (`repeats_under_second_index`).
-/

import Mathlib.Data.Finset.Card
import Mathlib.Data.List.Flatten
import AddressWatch.Proofs.Windows.Batch

namespace AddressWatch.Windows

/-- The adapters' names with their addresses, in the order of the table. -/
def namedAddresses (adapters : List AdapterEntry) : List (String × IpAddr) :=
  adapters.flatMap fun a => a.addresses.map fun x => (a.name, x.1)

/-- The different notifications of a queue that stand for a kind of change of the adapter. -/
def AdapterEntry.reports (a : AdapterEntry) (kind : ChangeKind) (queue : List Notification) :
    Finset Notification :=
  queue.toFinset.filter fun n =>
    (a.index = n.index ∨ a.ipv6Index = n.index) ∧ Registration.changeKind n.type = kind

theorem AdapterEntry.mem_reports {a : AdapterEntry} {kind : ChangeKind}
    {queue : List Notification} {n : Notification} :
    n ∈ a.reports kind queue ↔
      n ∈ queue ∧ a.hasIndex n.index = true ∧ Registration.changeKind n.type = kind := by
  rw [reports, Finset.mem_filter, List.mem_toFinset, hasIndex]
  simp only [Bool.or_eq_true, beq_iff_eq]

namespace Registration

/-! ## The events of one notification -/

section OneNotification

variable {adapters : List AdapterEntry} (hpairs : (namedAddresses adapters).Nodup)

include hpairs

/-- One notification gives no event twice: its events are about different addresses. -/
theorem nodup_events (n : Notification) : (events adapters n).Nodup := by
  have hproject : (events adapters n).map (fun e => (e.interface, e.address)) =
      namedAddresses (adapters.filter (·.hasIndex n.index)) := by
    rw [events, List.map_flatMap, namedAddresses]
    simp only [List.map_map]
    rfl
  have hsub : (namedAddresses (adapters.filter (·.hasIndex n.index))).Sublist
      (namedAddresses adapters) := List.filter_sublist.flatMap _
  apply List.Nodup.of_map (fun e : ChangeEvent => (e.interface, e.address))
  rw [hproject]
  exact hpairs.sublist hsub

/-- An address under a name belongs to one adapter only. -/
theorem eq_of_namedAddresses {a b : AdapterEntry} {x y : IpAddr × UInt8} (ha : a ∈ adapters)
    (hb : b ∈ adapters) (hx : x ∈ a.addresses) (hy : y ∈ b.addresses)
    (hname : b.name = a.name) (haddress : y.1 = x.1) : b = a := by
  obtain ⟨-, hdisjoint⟩ := List.nodup_flatMap.mp hpairs
  by_contra hne
  have hsymm : Std.Symm (Function.onFun List.Disjoint
      fun a : AdapterEntry => a.addresses.map fun x => (a.name, x.1)) := ⟨fun _ _ h => h.symm⟩
  have hapart := hdisjoint.forall hb ha hne
  refine hapart (List.mem_map_of_mem hy) ?_
  rw [hname, haddress]
  exact List.mem_map_of_mem hx

/-- A notification gives an event about an address once if it is about the adapter of the address
and of a type for the kind of the event, and otherwise not at all. -/
theorem count_events {a : AdapterEntry} {x : IpAddr × UInt8} (ha : a ∈ adapters)
    (hx : x ∈ a.addresses) (kind : ChangeKind) (n : Notification) :
    (events adapters n).count ⟨a.name, x.1, kind⟩ =
      if a.hasIndex n.index = true ∧ changeKind n.type = kind then 1 else 0 := by
  split
  · next h =>
      apply List.count_eq_one_of_mem (nodup_events hpairs n)
      rw [mem_events]
      exact ⟨a, ha, h.1, x, hx, by rw [h.2]⟩
  · next h =>
      apply List.count_eq_zero.mpr
      intro hmem
      obtain ⟨b, hb, hindex, y, hy, heq⟩ := mem_events.mp hmem
      obtain ⟨hname, haddress, hkind⟩ := ChangeEvent.mk.inj heq
      obtain rfl := eq_of_namedAddresses hpairs ha hb hx hy hname haddress
      exact h ⟨hindex, hkind⟩

/-! ## The events of a batch -/

theorem count_batchEvents {a : AdapterEntry} {x : IpAddr × UInt8} (ha : a ∈ adapters)
    (hx : x ∈ a.addresses) (kind : ChangeKind) (ns : List Notification) :
    (batchEvents adapters ns).count ⟨a.name, x.1, kind⟩ =
      ns.countP fun n => a.hasIndex n.index = true ∧ changeKind n.type = kind := by
  induction ns with
  | nil => rfl
  | cons n rest ih =>
      rw [batchEvents] at ih ⊢
      rw [List.flatMap_cons, List.count_append, ih, count_events hpairs ha hx, List.countP_cons,
        Nat.add_comm]
      simp only [decide_eq_true_eq]

/-- An event of a batch without repetitions comes as often as there are different notifications for
it. -/
theorem count_batchEvents_firsts {a : AdapterEntry} {x : IpAddr × UInt8} (ha : a ∈ adapters)
    (hx : x ∈ a.addresses) (kind : ChangeKind) (queue : List Notification) :
    (batchEvents adapters (firsts [] queue)).count ⟨a.name, x.1, kind⟩ =
      (a.reports kind queue).card := by
  have hfirsts := firstOccurrences_firsts queue
  have hsame : a.reports kind queue = ((firsts [] queue).filter fun n =>
      a.hasIndex n.index = true ∧ changeKind n.type = kind).toFinset := by
    ext n
    rw [AdapterEntry.mem_reports, List.mem_toFinset, List.mem_filter, hfirsts.mem_iff,
      decide_eq_true_eq]
  rw [count_batchEvents hpairs ha hx, hsame, List.toFinset_card_of_nodup (hfirsts.nodup.filter _),
    List.countP_eq_length_filter]

/-- A batch repeats no event exactly if no two different notifications are about one adapter and of
one kind. -/
theorem nodup_batchEvents_iff (queue : List Notification) :
    (batchEvents adapters (firsts [] queue)).Nodup ↔
      ∀ a ∈ adapters, a.addresses ≠ [] → ∀ kind, (a.reports kind queue).card ≤ 1 := by
  rw [List.nodup_iff_count_le_one]
  constructor
  · intro hcount a ha haddresses kind
    obtain ⟨x, hx⟩ := List.exists_mem_of_ne_nil _ haddresses
    rw [← count_batchEvents_firsts hpairs ha hx]
    exact hcount _
  · intro hreports e
    by_cases hmem : e ∈ batchEvents adapters (firsts [] queue)
    · -- The event is about an address of an adapter, which says how often it comes.
      obtain ⟨n, -, hn⟩ := List.mem_flatMap.mp hmem
      obtain ⟨a, ha, -, x, hx, rfl⟩ := mem_events.mp hn
      rw [count_batchEvents_firsts hpairs ha hx]
      exact hreports a ha (List.ne_nil_of_mem hx) _
    · rw [List.count_eq_zero.mpr hmem]
      exact Nat.zero_le 1

end OneNotification

/-! ## The events of a call -/

/-- **Multiplicity.** A call of the registration emits nothing if the table cannot be read. By a
table of adapters in which no address stands twice under one name, it emits an event about an
address of an adapter as often as there are different queued notifications that have an index of the
adapter and a type for the kind of the event, however often each of them was queued. So it repeats
no event exactly if, for each adapter with an address and each kind, there is at most one such
notification. -/
theorem event_multiplicity {κ : Type} (receiver : ChangeEvent → κ → List Action × κ)
    {m : Monitor Registration} {r : Registration} {s : System} (hb : m.backend = some r)
    (timeout : Wait) (k : κ) :
    let happened := Effect.events (m.process (Registration.host receiver) timeout (s, k)).effects
    (∀ e, s.fetchAdapters.1 = .error e → happened = []) ∧
    ∀ adapters, s.fetchAdapters.1 = .ok adapters → (namedAddresses adapters).Nodup →
      (∀ a ∈ adapters, ∀ x ∈ a.addresses, ∀ kind,
        happened.count ⟨a.name, x.1, kind⟩ = (a.reports kind (s.queue r.queue)).card) ∧
      (happened.Nodup ↔ ∀ a ∈ adapters, a.addresses ≠ [] → ∀ kind,
        (a.reports kind (s.queue r.queue)).card ≤ 1) := by
  intro happened
  by_cases hq : s.queue r.queue = []
  · -- Nothing is queued, so that nothing is emitted and there is nothing to count.
    have hnone : happened = [] := by
      show Effect.events (m.process _ timeout (s, k)).effects = []
      rw [process_monitor_of_empty receiver hb timeout hq k]
      rfl
    have hbatch : ∀ adapters, happened = batchEvents adapters (firsts [] (s.queue r.queue)) := by
      intro adapters
      rw [hnone, hq]
      rfl
    refine ⟨fun _ _ => hnone, fun adapters _ hpairs => ?_⟩
    rw [hbatch adapters]
    exact ⟨fun a ha x hx kind => count_batchEvents_firsts hpairs ha hx kind _,
      nodup_batchEvents_iff hpairs _⟩
  · refine ⟨fun e hfetch => ?_, fun adapters hfetch hpairs => ?_⟩
    · obtain ⟨hevents, -⟩ := process_monitor_of_unfetched receiver hb timeout hq hfetch k
      exact hevents
    · have hbatch : happened = batchEvents adapters (firsts [] (s.queue r.queue)) :=
        (process_monitor_of_fetched receiver hb timeout hq hfetch k).1
      rw [hbatch]
      exact ⟨fun a ha x hx kind => count_batchEvents_firsts hpairs ha hx kind _,
        nodup_batchEvents_iff hpairs _⟩

/-- An interface comes up, which is queued three times, and changes, which is queued under both
indices and with two types: it comes up once and changes three times. -/
theorem event_multiplicity_of_repeats :
    let h : Host (System × Unit) Registration := Registration.host fun _ k => ([], k)
    let address : IpAddr := .v4 ⟨10, 0, 0, 1⟩
    let plan : System := { adapters := [⟨7, 9, [101], 1, 6, [⟨some (.ofIp address 2 0), 24⟩]⟩] }
    let t₀ := (Monitor.new Registration).start h (plan, ())
    let queued : List Notification :=
      [⟨7, 1⟩, ⟨7, 1⟩, ⟨7, 0⟩, ⟨9, 0⟩, ⟨8, 2⟩, ⟨9, 3⟩, ⟨7, 1⟩, ⟨9, 3⟩]
    let happened := Effect.events
      (t₀.monitor.process h none (queued.foldl System.post t₀.world.1, ())).effects
    happened.count ⟨"e", address, .added⟩ = 1 ∧ happened.count ⟨"e", address, .changed⟩ = 3 ∧
      ¬ happened.Nodup := by
  intro h address plan t₀ queued happened
  let a : AdapterEntry := ⟨7, 9, "e", true, false, [(address, 24)]⟩
  have hb : t₀.monitor.backend = some ⟨0⟩ := rfl
  have hfetch : (queued.foldl System.post t₀.world.1).fetchAdapters.1 = .ok [a] := by decide
  have hq : (queued.foldl System.post t₀.world.1).queue 0 = queued := by decide
  have ha : a ∈ [a] := List.mem_singleton_self a
  have hx : (address, 24) ∈ a.addresses := List.mem_singleton_self _
  have hpairs : (namedAddresses [a]).Nodup := by decide
  obtain ⟨-, hcall⟩ := event_multiplicity (fun _ k => ([], k)) hb none ()
  obtain ⟨hcount, hnodup⟩ := hcall [a] hfetch hpairs
  rw [hq] at hcount hnodup
  have hchanged : (a.reports .changed queued).card = 3 := by decide
  refine ⟨?_, ?_, fun hdistinct => ?_⟩
  · exact (hcount a ha _ hx .added).trans (by decide)
  · exact (hcount a ha _ hx .changed).trans hchanged
  · have hle := hnodup.mp hdistinct a ha (List.cons_ne_nil _ _) .changed
    rw [hchanged] at hle
    omega

/-- An interface comes up, of which the system notifies under both indices of its adapter: the table
has one address, and the event about it is emitted twice. -/
theorem repeats_under_second_index :
    let h : Host (System × Unit) Registration := Registration.host fun _ k => ([], k)
    let address : IpAddr := .v4 ⟨10, 0, 0, 1⟩
    let a : AdapterEntry := ⟨7, 9, "e", true, false, [(address, 24)]⟩
    let plan : System := { adapters := [⟨7, 9, [101], 1, 6, [⟨some (.ofIp address 2 0), 24⟩]⟩] }
    let t₀ := (Monitor.new Registration).start h (plan, ())
    let s := (t₀.world.1.post ⟨7, 1⟩).post ⟨9, 1⟩
    let happened := Effect.events (t₀.monitor.process h none (s, ())).effects
    t₀.monitor.backend = some ⟨0⟩ ∧ s.fetchAdapters.1 = .ok [a] ∧ (namedAddresses [a]).Nodup ∧
      happened = [⟨"e", address, .added⟩, ⟨"e", address, .added⟩] ∧ ¬ happened.Nodup := by
  decide

end Registration

end AddressWatch.Windows
