/-
  AddressWatch.Proofs.Windows.LastNotification

  Which event about an address comes last in a batch. It is that of the latest notification about
  the adapter among the first occurrences (`last_event`), which is the latest one of the queue if
  that repeats no earlier one. A repeated notification keeps the place of its first occurrence: an
  interface that comes up, goes down and comes up again in one batch is reported as down
  (`last_event_ne_latest`).
-/

import AddressWatch.Proofs.Windows.Batch

namespace AddressWatch

/-- The last of the events about an address of an interface. -/
def lastEvent? (interface : String) (address : IpAddr) (events : List ChangeEvent) :
    Option ChangeEvent :=
  (events.filter fun e => e.interface = interface ∧ e.address = address).getLast?

theorem lastEvent?_append (interface : String) (address : IpAddr) (xs ys : List ChangeEvent) :
    lastEvent? interface address (xs ++ ys) =
      (lastEvent? interface address ys).or (lastEvent? interface address xs) := by
  rw [lastEvent?, List.filter_append, List.getLast?_append]
  rfl

namespace Windows

/-- The latest of the notifications about an adapter. -/
def AdapterEntry.latest? (a : AdapterEntry) (ns : List Notification) : Option Notification :=
  (ns.filter fun n => a.hasIndex n.index).getLast?

section Latest

variable {a : AdapterEntry} {ns : List Notification} {n : Notification}

theorem AdapterEntry.latest?_append_singleton :
    a.latest? (ns ++ [n]) = if a.hasIndex n.index then some n else a.latest? ns := by
  rw [latest?, List.filter_append, List.getLast?_append, List.filter_singleton]
  cases a.hasIndex n.index <;> rfl

theorem AdapterEntry.exists_latest? (hn : n ∈ ns) (hindex : a.hasIndex n.index = true) :
    ∃ n', a.latest? ns = some n' := by
  cases hlatest : a.latest? ns with
  | some n' => exact ⟨n', rfl⟩
  | none =>
      have hnone := List.getLast?_eq_none_iff.mp hlatest
      exact absurd hindex (List.filter_eq_nil_iff.mp hnone n hn)

end Latest

/-! ## Repeated notifications -/

namespace Registration

/-- One more notification counts if it is new. -/
theorem firsts_append_singleton (ns : List Notification) (n : Notification) :
    firsts [] (ns ++ [n]) = if n ∈ ns then firsts [] ns else firsts [] ns ++ [n] := by
  have hall : ∀ ms : List Notification, ms.removeAll [] = ms := by
    intro ms
    exact List.filter_eq_self.mpr fun _ _ => rfl
  rw [firsts_eq_eraseDups, firsts_eq_eraseDups, hall, hall, List.eraseDups_append,
    List.cons_removeAll]
  by_cases hn : n ∈ ns
  · rw [if_pos hn, if_neg (by simpa using hn)]
    exact List.append_nil _
  · rw [if_neg hn, if_pos (by simpa using hn)]
    rfl

/-- The latest notification about an adapter is also the latest first occurrence, unless it repeats
an earlier one. -/
theorem latest?_firsts {a : AdapterEntry} {queue : List Notification} {n : Notification}
    (hlatest : a.latest? queue = some n) (hcount : queue.count n = 1) :
    a.latest? (firsts [] queue) = some n := by
  induction queue using List.reverseRecOn with
  | nil => cases hlatest
  | append_singleton queue m ih =>
      rw [AdapterEntry.latest?_append_singleton] at hlatest
      rw [List.count_append, List.count_singleton] at hcount
      rw [firsts_append_singleton]
      by_cases hindex : a.hasIndex m.index = true
      · rw [if_pos hindex, Option.some.injEq] at hlatest
        obtain rfl := hlatest
        -- It is the last one in the queue, so it is not in what is before it.
        have hnew : m ∉ queue := by
          rw [beq_self_eq_true, if_pos rfl] at hcount
          exact List.count_eq_zero.mp (by omega)
        rw [if_neg hnew, AdapterEntry.latest?_append_singleton, if_pos hindex]
      · rw [if_neg hindex] at hlatest
        have hne : m ≠ n := by
          rintro rfl
          exact hindex (List.mem_filter.mp (List.mem_of_getLast? hlatest)).2
        rw [beq_false_of_ne hne, if_neg Bool.false_ne_true, Nat.add_zero] at hcount
        have hbefore := ih hlatest hcount
        split
        · exact hbefore
        · rw [AdapterEntry.latest?_append_singleton, if_neg hindex]
          exact hbefore

end Registration

/-! ## The events of a batch -/

namespace Registration

variable {adapters : List AdapterEntry} {a : AdapterEntry} {x : IpAddr × UInt8}

/-- A notification about the adapter gives an event about each of its addresses, and no other one
does. -/
theorem lastEvent?_events (hnames : (adapters.map AdapterEntry.name).Nodup) (ha : a ∈ adapters)
    (hx : x ∈ a.addresses) (n : Notification) :
    lastEvent? a.name x.1 (events adapters n) =
      if a.hasIndex n.index then some ⟨a.name, x.1, changeKind n.type⟩ else none := by
  -- An event with the adapter's name is one of this adapter, for no other one has the name.
  have hevent : ∀ e ∈ (events adapters n).filter fun e => e.interface = a.name ∧ e.address = x.1,
      a.hasIndex n.index = true ∧ e = ⟨a.name, x.1, changeKind n.type⟩ := by
    intro e he
    obtain ⟨hmem, hsame⟩ := List.mem_filter.mp he
    obtain ⟨b, hb, hindex, y, -, rfl⟩ := mem_events.mp hmem
    obtain ⟨hname, haddress⟩ := of_decide_eq_true hsame
    obtain rfl : b = a := List.inj_on_of_nodup_map hnames hb ha hname
    exact ⟨hindex, congrArg (ChangeEvent.mk b.name · _) haddress⟩
  cases hlast : lastEvent? a.name x.1 (events adapters n) with
  | some e =>
      obtain ⟨hindex, rfl⟩ := hevent e (List.mem_of_getLast? hlast)
      rw [if_pos hindex]
  | none =>
      have hnone := List.getLast?_eq_none_iff.mp hlast
      rw [if_neg]
      intro hindex
      have hmem := mem_events.mpr ⟨a, ha, hindex, x, hx, rfl⟩
      exact absurd (List.filter_eq_nil_iff.mp hnone _ hmem) (by simp)

theorem lastEvent?_batchEvents (hnames : (adapters.map AdapterEntry.name).Nodup)
    (ha : a ∈ adapters) (hx : x ∈ a.addresses) (ns : List Notification) :
    lastEvent? a.name x.1 (batchEvents adapters ns) =
      (a.latest? ns).map fun n => ⟨a.name, x.1, changeKind n.type⟩ := by
  induction ns using List.reverseRecOn with
  | nil => rfl
  | append_singleton ns n ih =>
      rw [batchEvents, List.flatMap_append, lastEvent?_append, List.flatMap_singleton,
        lastEvent?_events hnames ha hx, AdapterEntry.latest?_append_singleton]
      cases a.hasIndex n.index with
      | true => rfl
      | false => exact ih

/-- **The last event.** Let a call of the registration read a table of adapters with distinct names,
and let something be queued about one of these adapters. The last event about an address of the
adapter has the kind of the latest notification about it among the first occurrences. If the latest
one in the queue repeats no earlier one, this is the one. -/
theorem last_event {κ : Type} (receiver : ChangeEvent → κ → List Action × κ)
    {m : Monitor Registration} {r : Registration} {s : System} (hb : m.backend = some r)
    (hfetch : s.fetchAdapters.1 = .ok adapters)
    (hnames : (adapters.map AdapterEntry.name).Nodup) (ha : a ∈ adapters)
    (hx : x ∈ a.addresses) (hqueued : ∃ n ∈ s.queue r.queue, a.hasIndex n.index = true)
    (timeout : Wait) (k : κ) :
    let t := m.process (Registration.host receiver) timeout (s, k)
    let last := lastEvent? a.name x.1 (Effect.events t.effects)
    (∃ ns n, FirstOccurrences (s.queue r.queue) ns ∧ a.latest? ns = some n ∧
      last = some ⟨a.name, x.1, changeKind n.type⟩) ∧
    ∀ n, a.latest? (s.queue r.queue) = some n → (s.queue r.queue).count n = 1 →
      last = some ⟨a.name, x.1, changeKind n.type⟩ := by
  intro t last
  obtain ⟨n, hn, hindex⟩ := hqueued
  have hq : s.queue r.queue ≠ [] := List.ne_nil_of_mem hn
  have hlast : last = (a.latest? (firsts [] (s.queue r.queue))).map
      fun n => ⟨a.name, x.1, changeKind n.type⟩ := by
    obtain ⟨hevents, -⟩ := process_monitor_of_fetched receiver hb timeout hq hfetch k
    rw [← lastEvent?_batchEvents hnames ha hx, ← hevents]
  have hfirsts := firstOccurrences_firsts (s.queue r.queue)
  refine ⟨?_, fun n hlatest hcount => ?_⟩
  · obtain ⟨n', hn'⟩ := AdapterEntry.exists_latest? ((hfirsts.mem_iff n).mpr hn) hindex
    rw [hn'] at hlast
    exact ⟨_, n', hfirsts, hn', hlast⟩
  · rw [hlast, latest?_firsts hlatest hcount]
    rfl

/-- An interface comes up under its first index and goes down under its second one, between
notifications about another interface. -/
theorem last_event_of_up_and_down :
    let h : Host (System × Unit) Registration := Registration.host fun _ k => ([], k)
    let address : IpAddr := .v4 ⟨10, 0, 0, 1⟩
    let plan : System := { adapters := [⟨7, 9, [101], 1, 6, [⟨some (.ofIp address 2 0), 24⟩]⟩] }
    let t₀ := (Monitor.new Registration).start h (plan, ())
    let s := (((t₀.world.1.post ⟨7, 1⟩).post ⟨8, 1⟩).post ⟨9, 2⟩).post ⟨8, 1⟩
    lastEvent? "e" address (Effect.events (t₀.monitor.process h none (s, ())).effects) =
      some ⟨"e", address, .removed⟩ := by
  intro h address plan t₀ s
  let a : AdapterEntry := ⟨7, 9, "e", true, false, [(address, 24)]⟩
  have hb : t₀.monitor.backend = some ⟨0⟩ := rfl
  have hfetch : s.fetchAdapters.1 = .ok [a] := by decide
  have hq : s.queue 0 = [⟨7, 1⟩, ⟨8, 1⟩, ⟨9, 2⟩, ⟨8, 1⟩] := by decide
  have ha : a ∈ [a] := List.mem_singleton_self a
  have hx : (address, 24) ∈ a.addresses := List.mem_singleton_self _
  have hqueued : ∃ n ∈ s.queue 0, a.hasIndex n.index = true := by
    rw [hq]
    exact ⟨⟨7, 1⟩, List.mem_cons_self, rfl⟩
  obtain ⟨-, hlast⟩ :=
    last_event (fun _ k => ([], k)) hb hfetch (List.nodup_singleton _) ha hx hqueued none ()
  refine hlast ⟨9, 2⟩ ?_ ?_
  · rw [hq]
    rfl
  · rw [hq]
    rfl

/-- An interface comes up, goes down and comes up again: the latest notification repeats the first
one, and what is reported last is that it went down. -/
theorem last_event_ne_latest :
    let h : Host (System × Unit) Registration := Registration.host fun _ k => ([], k)
    let address : IpAddr := .v4 ⟨10, 0, 0, 1⟩
    let a : AdapterEntry := ⟨7, 9, "e", true, false, [(address, 24)]⟩
    let plan : System := { adapters := [⟨7, 9, [101], 1, 6, [⟨some (.ofIp address 2 0), 24⟩]⟩] }
    let t₀ := (Monitor.new Registration).start h (plan, ())
    let s := ((t₀.world.1.post ⟨7, 1⟩).post ⟨7, 2⟩).post ⟨7, 1⟩
    t₀.monitor.backend = some ⟨0⟩ ∧ s.fetchAdapters.1 = .ok [a] ∧
      ([a].map AdapterEntry.name).Nodup ∧ a.latest? (s.queue 0) = some ⟨7, 1⟩ ∧
      changeKind 1 = .added ∧
      lastEvent? a.name address (Effect.events (t₀.monitor.process h none (s, ())).effects) =
        some ⟨a.name, address, .removed⟩ := by
  decide

end Registration

end Windows

end AddressWatch
