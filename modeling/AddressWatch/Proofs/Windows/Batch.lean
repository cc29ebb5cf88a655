/-
  AddressWatch.Proofs.Windows.Batch

  One call of a registration. It takes the whole queue and acts on each of its notifications once,
  in the order in which they occur first (`FirstOccurrences`); what it emits are the addresses of
  the adapters that these are about. The table is read only behind a queue that is not empty, and
  when that fails the monitor stops, so that a monitor that runs on has delivered all that was taken
  from its queue (`process_delivers_batch`).
-/

import Mathlib.Data.List.Nodup
import AddressWatch.Proofs.Monitor.Failure
import AddressWatch.Proofs.Windows.Fleet

namespace AddressWatch.Windows

/-! ## First occurrences -/

/-- The list has the notifications of the queue, each once, in the order in which they occur
first. -/
structure FirstOccurrences (queue ns : List Notification) : Prop where
  mem_iff : ∀ n, n ∈ ns ↔ n ∈ queue
  nodup : ns.Nodup
  ordered : ns.Pairwise fun m n => queue.idxOf m < queue.idxOf n

/-- There is only one such list. -/
theorem FirstOccurrences.unique {queue ns ns' : List Notification} (h : FirstOccurrences queue ns)
    (h' : FirstOccurrences queue ns') : ns = ns' := by
  have hperm : ns.Perm ns' := by
    rw [List.perm_ext_iff_of_nodup h.nodup h'.nodup]
    intro n
    rw [h.mem_iff, h'.mem_iff]
  refine List.Perm.eq_of_pairwise (fun m n _ _ hmn hnm => ?_) h.ordered h'.ordered hperm
  omega

namespace Registration

/-- What was seen before is left out, and of equal notifications the first one is kept. -/
theorem firsts_eq_eraseDups (seen ns : List Notification) :
    firsts seen ns = (ns.removeAll seen).eraseDups := by
  induction ns generalizing seen with
  | nil => rfl
  | cons n rest ih =>
      rw [firsts]
      by_cases hn : n ∈ seen
      · rw [if_pos hn, ih, List.cons_removeAll, if_neg (by simpa using hn)]
      · rw [if_neg hn, ih, List.cons_removeAll, if_pos (by simpa using hn), List.eraseDups_cons,
          List.removeAll_cons]
        simp only [List.removeAll, List.filter_filter, Bool.and_comm]

theorem mem_firsts {n : Notification} {seen ns : List Notification} :
    n ∈ firsts seen ns ↔ n ∈ ns ∧ n ∉ seen := by
  rw [firsts_eq_eraseDups, List.mem_eraseDups, List.removeAll, List.mem_filter]
  simp

theorem ordered_firsts (seen ns : List Notification) :
    (firsts seen ns).Pairwise fun m n => ns.idxOf m < ns.idxOf n := by
  induction ns generalizing seen with
  | nil => exact .nil
  | cons x rest ih =>
      -- Where `x` was seen it is not among the later ones, whose places all move by one.
      have hshift : ∀ seen', x ∈ seen' → (firsts seen' rest).Pairwise
          fun m n => (x :: rest).idxOf m < (x :: rest).idxOf n := by
        intro seen' hx
        have hne : ∀ n ∈ firsts seen' rest, x ≠ n := by
          rintro n hn rfl
          exact (mem_firsts.mp hn).2 hx
        refine (ih seen').imp_of_mem fun {m n} hm hn hmn => ?_
        rw [List.idxOf_cons_ne _ (hne m hm), List.idxOf_cons_ne _ (hne n hn)]
        exact Nat.succ_lt_succ hmn
      rw [firsts]
      split
      · rename_i hx
        exact hshift seen hx
      · have hx : x ∈ x :: seen := List.mem_cons_self
        refine List.pairwise_cons.mpr ⟨fun n hn => ?_, hshift (x :: seen) hx⟩
        have hne : x ≠ n := by
          rintro rfl
          exact (mem_firsts.mp hn).2 hx
        rw [List.idxOf_cons_self, List.idxOf_cons_ne _ hne]
        exact Nat.succ_pos _

theorem firstOccurrences_firsts (queue : List Notification) :
    FirstOccurrences queue (firsts [] queue) where
  mem_iff := fun n => by
    rw [mem_firsts]
    exact and_iff_left List.not_mem_nil
  nodup := (ordered_firsts [] queue).imp fun {m n} hmn heq => by
    rw [heq] at hmn
    exact Nat.lt_irrefl _ hmn
  ordered := ordered_firsts [] queue

theorem firsts_eq_nil_iff {queue : List Notification} : firsts [] queue = [] ↔ queue = [] := by
  constructor
  · intro hfirsts
    rw [List.eq_nil_iff_forall_not_mem]
    intro n hn
    rw [← (firstOccurrences_firsts queue).mem_iff, hfirsts] at hn
    exact List.not_mem_nil hn
  · rintro rfl
    rfl

end Registration

/-! ## Queues and the table -/

namespace System

/-- The system with other queues. -/
def withQueues (s : System) (queues : List (Nat × List Notification)) : System := { s with queues }

section Queues

variable (s : System) (queues : List (Nat × List Notification))

theorem acquire_withQueues :
    (s.withQueues queues).acquire = (s.acquire.1, s.acquire.2.withQueues queues) := by
  rw [acquire, acquire]
  show (if s.holders = 0 then _ else _) = _
  by_cases hn : s.holders = 0
  · simp only [if_pos hn]
    show (if (s.startup winsockVersion).1 = noError then _ else _) = _
    by_cases hcode : (s.startup winsockVersion).1 = noError
    · simp only [if_pos hcode]
      rfl
    · simp only [if_neg hcode]
      rfl
  · simp only [if_neg hn]
    rfl

theorem release_withQueues : (s.withQueues queues).release = s.release.withQueues queues := by
  rw [release, release]
  show (if s.holders - 1 = 0 then _ else _) = _
  by_cases hn : s.holders - 1 = 0
  · simp only [if_pos hn]
    rfl
  · simp only [if_neg hn]
    rfl

theorem adapterTable_withQueues (family flags : Nat) (buffer : Buffer) (size : UInt32) :
    (s.withQueues queues).adapterTable family flags buffer size =
      ((s.adapterTable family flags buffer size).1, (s.adapterTable family flags buffer size).2.1,
        (s.adapterTable family flags buffer size).2.2.withQueues queues) := by
  rw [adapterTable_eq, adapterTable_eq]
  rfl

theorem askTable_withQueues :
    (s.withQueues queues).askTable = (s.askTable.1, s.askTable.2.withQueues queues) := by
  rw [askTable, askTable, adapterTable_withQueues]
  generalize s.adapterTable anyFamily tableFlags ⟨firstSize.toNat⟩ firstSize = answer
  obtain ⟨code, size, s'⟩ := answer
  simp only
  split
  · rw [adapterTable_withQueues]
  · rfl

/-- A fetch neither reads nor changes the queues. -/
theorem fetchAdapters_withQueues :
    (s.withQueues queues).fetchAdapters =
      (s.fetchAdapters.1, s.fetchAdapters.2.withQueues queues) := by
  rw [fetchAdapters, fetchAdapters, acquire_withQueues]
  generalize s.acquire = taken
  obtain ⟨answer, s'⟩ := taken
  cases answer with
  | error e => rfl
  | ok _ =>
      simp only
      rw [askTable_withQueues]
      generalize s'.askTable = asked
      obtain ⟨code, s''⟩ := asked
      simp only
      rw [release_withQueues]
      split <;> rfl

end Queues

variable {s : System}

/-- The answer to a fetch does not depend on the notifications in a queue. -/
theorem fetchAdapters_setQueue (number : Nat) (notifications : List Notification) :
    (s.setQueue number notifications).fetchAdapters.1 = s.fetchAdapters.1 := by
  rw [show s.setQueue number notifications = s.withQueues _ from rfl, fetchAdapters_withQueues]

end System

/-! ## A call of the registration -/

namespace Registration

/-- What a fetch that answers leaves of a system whose queue was emptied for it. -/
def afterFetch (r : Registration) (s : System) : System := (s.setQueue r.queue []).fetchAdapters.2

/-- The events that notifications stand for, by a table of adapters. -/
def batchEvents (adapters : List AdapterEntry) (ns : List Notification) : List ChangeEvent :=
  ns.flatMap (events adapters)

section Process

variable {r : Registration} {s : System}

variable (timeout : Wait)

theorem process_of_empty (hq : s.queue r.queue = []) :
    r.process timeout s = ⟨[], .ok .timedOut, r, s⟩ := by
  rw [process, hq]
  rfl

theorem process_of_fetched {adapters : List AdapterEntry} (hq : s.queue r.queue ≠ [])
    (hfetch : s.fetchAdapters.1 = .ok adapters) :
    r.process timeout s =
      ⟨(batchEvents adapters (firsts [] (s.queue r.queue))).map .change,
        .ok (.processed (batchEvents adapters (firsts [] (s.queue r.queue))).length), r,
        r.afterFetch s⟩ := by
  have hfetched : (s.setQueue r.queue []).fetchAdapters = (.ok adapters, r.afterFetch s) :=
    Prod.ext ((System.fetchAdapters_setQueue _ _).trans hfetch) rfl
  rw [process]
  split
  · rename_i hfirsts
    exact absurd (firsts_eq_nil_iff.mp hfirsts) hq
  · rw [hfetched]
    rfl

theorem process_of_unfetched {e : FetchError} (hq : s.queue r.queue ≠ [])
    (hfetch : s.fetchAdapters.1 = .error e) :
    r.process timeout s = ⟨[], .error (ofFetchError e), r, r.afterFetch s⟩ := by
  have hfetched : (s.setQueue r.queue []).fetchAdapters = (.error e, r.afterFetch s) :=
    Prod.ext ((System.fetchAdapters_setQueue _ _).trans hfetch) rfl
  rw [process]
  split
  · rename_i hfirsts
    exact absurd (firsts_eq_nil_iff.mp hfirsts) hq
  · rw [hfetched]

end Process

theorem mem_events {adapters : List AdapterEntry} {n : Notification} {e : ChangeEvent} :
    e ∈ events adapters n ↔ ∃ b ∈ adapters, b.hasIndex n.index = true ∧
      ∃ y ∈ b.addresses, ⟨b.name, y.1, changeKind n.type⟩ = e := by
  rw [events, List.mem_flatMap]
  simp only [List.mem_filter, List.mem_map, and_assoc]

end Registration

/-! ## A call of the monitor -/

section Monitor

open Registration

variable {κ : Type} (receiver : ChangeEvent → κ → List Action × κ) {m : Monitor Registration}
  {r : Registration} {s : System}

/-- Without notifications a call changes nothing. -/
theorem process_monitor_of_empty (hb : m.backend = some r) (timeout : Wait)
    (hq : s.queue r.queue = []) (k : κ) :
    m.process (Registration.host receiver) timeout (s, k) =
      ⟨.ok .timedOut, m, (s, k), [.asked timeout]⟩ := by
  have hcall := process_of_empty timeout hq
  simp only [Monitor.process, hb, Registration.host, hcall, Monitor.relay]
  obtain ⟨state, backend, lastError, shutdown, slice, backoff⟩ := m
  obtain rfl : backend = some r := hb
  rfl

/-- With a table of adapters a call delivers the batch, and the monitor goes on. -/
theorem process_monitor_of_fetched {adapters : List AdapterEntry} (hb : m.backend = some r)
    (timeout : Wait) (hq : s.queue r.queue ≠ []) (hfetch : s.fetchAdapters.1 = .ok adapters)
    (k : κ) :
    let t := m.process (Registration.host receiver) timeout (s, k)
    Effect.events t.effects = batchEvents adapters (firsts [] (s.queue r.queue)) ∧
      t.result = .ok (.processed (batchEvents adapters (firsts [] (s.queue r.queue))).length) ∧
      t.monitor.state = m.state ∧ t.monitor.backend = some r ∧ t.world.1 = r.afterFetch s := by
  have hcall := process_of_fetched timeout hq hfetch
  have ho : ((m.session r (s, k)).reaction (Registration.host receiver) timeout).outcome =
      .ok (.processed (batchEvents adapters (firsts [] (s.queue r.queue))).length) := by
    show (r.process timeout s).outcome = _
    rw [hcall]
  refine ⟨?_, ?_⟩
  · rw [Monitor.events_process hb]
    show (r.process timeout s).occurrences.filterMap Occurrence.change? = _
    rw [hcall, List.filterMap_map]
    exact List.filterMap_some
  · rw [Monitor.process_of_ok hb ho]
    refine ⟨rfl, rfl, ?_, ?_⟩
    · show some (r.process timeout s).backend = some r
      rw [hcall]
    · show ((r.process timeout s).occurrences.foldl _ ((r.process timeout s).world, k)).1 = _
      rw [fst_foldl_worldAfter, hcall]

/-- Without a table of adapters a call delivers nothing, and the monitor stops. -/
theorem process_monitor_of_unfetched {e : FetchError} (hb : m.backend = some r) (timeout : Wait)
    (hq : s.queue r.queue ≠ []) (hfetch : s.fetchAdapters.1 = .error e) (k : κ) :
    let t := m.process (Registration.host receiver) timeout (s, k)
    Effect.events t.effects = [] ∧ t.result = .error (ofFetchError e) ∧
      t.monitor.state = .stopped ∧ t.monitor.backend = none ∧ Effect.releases t.effects = 1 ∧
      t.world.1 = r.close (r.afterFetch s) := by
  have hcall := process_of_unfetched timeout hq hfetch
  have ho : ((m.session r (s, k)).reaction (Registration.host receiver) timeout).outcome =
      .error (ofFetchError e) := by
    show (r.process timeout s).outcome = _
    rw [hcall]
  -- A fetch fails with an error of the system, and after one of these nothing more can come.
  have hfatal : (ofFetchError e).isFatal = true := by
    obtain ⟨code, -, rfl⟩ := System.exists_code_of_fetchAdapters hfetch
    rfl
  have hreleases := (Monitor.sourceFailed_process hb ho).releases
  rw [hfatal] at hreleases
  refine ⟨?_, ?_, ?_, ?_, hreleases, ?_⟩
  · rw [Monitor.events_process hb]
    show (r.process timeout s).occurrences.filterMap Occurrence.change? = []
    rw [hcall]
    rfl
  all_goals rw [Monitor.process_of_fatal hb ho hfatal]
  · rfl
  · rfl
  · show (r.process timeout s).backend.close
      ((r.process timeout s).occurrences.foldl _ ((r.process timeout s).world, k)).1 = _
    rw [fst_foldl_worldAfter, hcall]

end Monitor

end AddressWatch.Windows
