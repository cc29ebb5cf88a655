/-
  AddressWatch.Proofs.Windows.Fleet

  Any number of monitors over one system. They are created, operated and dropped in any order, the
  adapters are enumerated between their operations, and the system changes as it likes. Each of
  these moves the system in one of five ways (`Moves`), and of each way it is known what it takes
  and gives back. So the references to the socket library are those of the running monitors, and
  every registration is cancelled exactly once, before its reference is given back
  (`resources_balanced`).
-/

import Mathlib.Data.List.Nodup
import AddressWatch.Proofs.Monitor.Lifecycle
import AddressWatch.Proofs.Windows.Balance

namespace AddressWatch.Windows

/-! ## How an operation moves the system -/

/-- The registration that a monitor has before and after an operation. -/
structure Handover where
  before : Option Registration
  after : Option Registration

namespace Handover

/-- The registration that was opened. -/
def opened? : Handover → Option Registration
  | ⟨none, after⟩ => after
  | ⟨some _, _⟩ => none

/-- The registration that was closed. -/
def closed? : Handover → Option Registration
  | ⟨before, none⟩ => before
  | ⟨_, some _⟩ => none

end Handover

/-- The registrations that were opened, in order. -/
def opened (hs : List Handover) : List Registration := hs.filterMap Handover.opened?

/-- The registrations that were closed, in order. -/
def closed (hs : List Handover) : List Registration := hs.filterMap Handover.closed?

/-- The ways in which an operation moves the system, by what it does to a registration. -/
inductive Moves (s : System) : Handover → System → Prop
  /-- A registration is kept, or there is none. -/
  | keeps {held : Option Registration} {s' : System} (hs : s.OnlyAsks s') : Moves s ⟨held, held⟩ s'
  /-- The adapters are fetched. -/
  | fetches : Moves s ⟨none, none⟩ s.fetch.2
  | opens {r : Registration} (ho : (Registration.open s).backend = .ok r) :
      Moves s ⟨none, some r⟩ (Registration.open s).world
  /-- A registration is not opened, wherever that failed. -/
  | refuses {e : MonitorError} (ho : (Registration.open s).backend = .error e) :
      Moves s ⟨none, none⟩ (Registration.open s).world
  /-- The registration is closed, after a last call of it. -/
  | closes {r : Registration} {s' : System} (hs : s.OnlyAsks s') :
      Moves s ⟨some r, none⟩ (r.close s')

/-- What happens after calls that only ask for the adapters moves the system from before them. -/
theorem Moves.after_asking {s s' s'' : System} {r : Registration} {after : Option Registration}
    (hs : s.OnlyAsks s') (hm : Moves s' ⟨some r, after⟩ s'') : Moves s ⟨some r, after⟩ s'' := by
  cases hm with
  | keeps hs' => exact .keeps (hs.trans hs')
  | closes hs' => exact .closes (hs.trans hs')

/-- A registration that is kept is only asked. -/
theorem Moves.asks {s s' : System} {r r' : Registration} (hm : Moves s ⟨some r, some r'⟩ s') :
    s.OnlyAsks s' := by
  cases hm with
  | keeps hs => exact hs

/-- Every way of moving the system is counted: a registration that is opened takes a reference, one
that is closed gives it back, and nothing else is taken or given. -/
theorem Moves.balanced {s₀ s s' : System} {h : Handover} {n n' k l : Nat} (hm : Moves s h s')
    (hs : s₀.Balanced s n k l)
    (hn : n' + h.closed?.toList.length = n + h.opened?.toList.length) :
    s₀.Balanced s' n' (k + h.opened?.toList.length) (l + h.closed?.toList.length) := by
  cases hm with
  | @keeps held _ hasks =>
      cases held with
      | none =>
          obtain rfl : n' = n := hn
          exact hs.of_onlyAsks hasks
      | some r =>
          obtain rfl : n' = n := hn
          exact hs.of_onlyAsks hasks
  | fetches =>
      obtain rfl : n' = n := hn
      exact hs.fetchAdapters
  | opens ho =>
      obtain rfl : n' = n + 1 := hn
      exact (Registration.balanced_open_ok hs ho).2
  | refuses ho =>
      obtain rfl : n' = n := hn
      exact Registration.balanced_open_error hs ho
  | closes hasks =>
      obtain rfl : n = n' + 1 := hn.symm
      exact Registration.balanced_close _ (hs.of_onlyAsks hasks)

/-- A registration that is opened or was there before is closed or there afterwards. -/
theorem Moves.conserved {s s' : System} {h : Handover} (hm : Moves s h s') :
    (h.before.toList ++ h.opened?.toList).Perm (h.closed?.toList ++ h.after.toList) := by
  cases hm with
  | @keeps held _ hs => cases held <;> exact .refl _
  | fetches => exact .refl _
  | opens ho => exact .refl _
  | refuses ho => exact .refl _
  | closes hs => exact .refl _

/-- The queue of a registration that is opened has the next number. -/
theorem Moves.numbered {s₀ s s' : System} {h : Handover} {n l : Nat} {rs : List Registration}
    (hm : Moves s h s') (hs : s₀.Balanced s n rs.length l)
    (hrs : rs = (List.range rs.length).map fun i => ⟨s₀.nextQueue + i⟩) :
    rs ++ h.opened?.toList =
      (List.range (rs.length + h.opened?.toList.length)).map fun i => ⟨s₀.nextQueue + i⟩ := by
  cases hm with
  | @keeps held _ hasks =>
      cases held with
      | none => exact (List.append_nil rs).trans hrs
      | some r => exact (List.append_nil rs).trans hrs
  | fetches => exact (List.append_nil rs).trans hrs
  | refuses ho => exact (List.append_nil rs).trans hrs
  | closes hasks => exact (List.append_nil rs).trans hrs
  | @opens r ho =>
      obtain ⟨hr, -⟩ := Registration.balanced_open_ok hs ho
      show rs ++ [r] = (List.range (rs.length + 1)).map _
      rw [List.range_succ, List.map_append, ← hrs, hr]
      rfl

/-! ## The operations of one monitor -/

section Operations

open Monitor

variable {κ : Type} {receiver : ChangeEvent → κ → List Action × κ} {m : Monitor Registration}
  {s : System} {k : κ}

/-- The receiver of changes makes no calls. -/
theorem fst_foldl_worldAfter (os : List Occurrence) (s : System) (k : κ) :
    (os.foldl (Registration.host receiver).worldAfter (s, k)).1 = s :=
  Host.foldl_worldAfter Prod.fst (fun _ _ => rfl) os (s, k)

/-- A call of a running monitor only asks for the adapters, and leaves its registration. -/
theorem next_session (receiver : ChangeEvent → κ → List Action × κ) (m : Monitor Registration)
    (r : Registration) (timeout : Wait) (hheld : s.holders ≠ 0) (k : κ) :
    ((m.session r (s, k)).next (Registration.host receiver) timeout).backend = r ∧
      s.OnlyAsks ((m.session r (s, k)).next (Registration.host receiver) timeout).world.1 := by
  have hworld : ((m.session r (s, k)).next (Registration.host receiver) timeout).world.1 =
      (r.process timeout s).world := fst_foldl_worldAfter _ _ _
  rw [hworld]
  exact ⟨r.backend_process timeout s, r.onlyAsks_process timeout hheld⟩

theorem moves_start (hc : m.Consistent) (k : κ) :
    Moves s ⟨m.backend, (m.start (Registration.host receiver) (s, k)).monitor.backend⟩
      (m.start (Registration.host receiver) (s, k)).world.1 := by
  by_cases hm : m.state = .created
  · -- A created monitor has no registration that a start could overwrite.
    have hb : m.backend = none := by
      cases hb : m.backend with
      | none => rfl
      | some r =>
          have hrunning := hc.state_of_backend hb
          rw [hm] at hrunning
          cases hrunning
    cases ho : (Registration.open s).backend with
    | ok r =>
        have hopen : ((Registration.host receiver).openBackend (s, k)).backend = .ok r := ho
        rw [start_of_ok hm hopen, hb]
        exact .opens ho
    | error e =>
        have hopen : ((Registration.host receiver).openBackend (s, k)).backend = .error e := ho
        rw [start_of_error hm hopen]
        show Moves s ⟨m.backend, m.backend⟩ _
        rw [hb]
        exact .refuses ho
  · rw [start_of_refused hm]
    exact .keeps (.refl s)

theorem moves_stop (hc : m.Consistent) (k : κ) :
    Moves s ⟨m.backend, (m.stop (Registration.host receiver) (s, k)).monitor.backend⟩
      (m.stop (Registration.host receiver) (s, k)).world.1 := by
  by_cases hm : m.state = .running
  · obtain ⟨r, hb⟩ := hc.exists_backend hm
    rw [stop_of_running hm hb, hb]
    exact .closes (.refl s)
  · rw [stop_of_refused hm]
    exact .keeps (.refl s)

theorem moves_process (timeout : Wait) (hheld : m.backend.isSome = true → s.holders ≠ 0) (k : κ) :
    Moves s ⟨m.backend, (m.process (Registration.host receiver) timeout (s, k)).monitor.backend⟩
      (m.process (Registration.host receiver) timeout (s, k)).world.1 := by
  cases hb : m.backend with
  | none =>
      rw [process_of_none hb]
      show Moves s ⟨none, m.backend⟩ s
      rw [hb]
      exact .keeps (.refl s)
  | some r =>
      have hpositive := hheld (by rw [hb]; rfl)
      obtain ⟨hbackend, hasks⟩ := next_session receiver m r timeout hpositive k
      cases ho : ((m.session r (s, k)).reaction (Registration.host receiver) timeout).outcome with
      | ok outcome =>
          rw [process_of_ok hb ho]
          show Moves s ⟨some r, some _⟩ _
          rw [hbackend]
          exact .keeps hasks
      | error e =>
          cases he : e.isFatal with
          | false =>
              rw [process_of_error hb ho he]
              show Moves s ⟨some r, some _⟩ _
              rw [hbackend]
              exact .keeps hasks
          | true =>
              rw [process_of_fatal hb ho he, hbackend]
              exact .closes hasks

/-- A round of the loop leaves the registration, and only asks for the adapters. -/
theorem asks_round {t : Turn (System × κ) Registration} (hc : m.Consistent)
    (hheld : m.backend.isSome = true → s.holders ≠ 0)
    (hp : Performs (Registration.host receiver) m (s, k) .round t) :
    ∃ r, m.backend = some r ∧ t.monitor.backend = some r ∧ s.OnlyAsks t.world.1 := by
  cases hp with
  | round hm hf ho =>
      obtain ⟨r, hb⟩ := hc.exists_backend (isRunning_iff.mp hm)
      have hpositive := hheld (by rw [hb]; rfl)
      obtain ⟨hbackend, hasks⟩ := next_session receiver m r (some m.slice) hpositive k
      obtain ⟨r', hb', hr⟩ := exists_backend_of_ok ho
      obtain rfl : r = r' := Option.some.inj (hb.symm.trans hb')
      rw [process_of_ok hb hr]
      exact ⟨r, hb, congrArg some hbackend, hasks⟩

theorem moves_processBlocking {fuel : Nat} {t : Step (System × κ) Registration Unit}
    (hc : m.Consistent) (hheld : m.backend.isSome = true → s.holders ≠ 0)
    (ht : m.processBlocking (Registration.host receiver) fuel (s, k) = some t) :
    Moves s ⟨m.backend, t.monitor.backend⟩ t.world.1 := by
  by_cases hm : m.state = .running
  · have hrunning := isRunning_iff.mpr hm
    rw [processBlocking, if_pos hrunning] at ht
    -- The motive carries the reference: each round needs it of the system it finds.
    refine slices_induction (P := fun m w t => m.Consistent →
      (m.backend.isSome = true → w.1.holders ≠ 0) →
      Moves w.1 ⟨m.backend, t.monitor.backend⟩ t.world.1) ?_ ?_ ?_ fuel hrunning ht hc hheld
    · intro m w _ _ _ _
      exact .keeps (.refl _)
    · intro m w e _ _ _ _ hheld
      exact moves_process _ hheld w.2
    · intro m w t t' _ hp ih hc hheld
      obtain ⟨r, hb, hb', hasks⟩ := asks_round hc hheld hp
      have hrest := ih (hp.lives hc).consistent fun _ => by
        rw [hasks.holders]
        exact hheld (by rw [hb]; rfl)
      rw [hb'] at hrest
      rw [hb]
      exact hrest.after_asking hasks
  · rw [processBlocking_of_refused fuel hm, Option.some.injEq] at ht
    rw [← ht]
    exact .keeps (.refl s)

/-- Every operation of a monitor moves the system in one of the five ways. -/
theorem moves_of_performs {op : Operation} {t : Turn (System × κ) Registration}
    (hc : m.Consistent) (hheld : m.backend.isSome = true → s.holders ≠ 0)
    (hp : Performs (Registration.host receiver) m (s, k) op t) :
    Moves s ⟨m.backend, t.monitor.backend⟩ t.world.1 := by
  cases hp with
  | start => exact moves_start hc k
  | stop => exact moves_stop hc k
  | process timeout => exact moves_process timeout hheld k
  | processBlocking ht => exact moves_processBlocking hc hheld ht
  | round hm hf ho =>
      obtain ⟨r, hb, hb', hasks⟩ := asks_round hc hheld (.round hm hf ho)
      rw [hb, hb']
      exact .keeps hasks
  | withShutdown raised => exact .keeps (.refl s)
  | withSlice slice => exact .keeps (.refl s)
  | withBackoff backoff => exact .keeps (.refl s)
  | trigger => exact .keeps (.refl s)

theorem moves_drop (hc : m.Consistent) (k : κ) :
    Moves s ⟨m.backend, none⟩ (m.drop (Registration.host receiver) (s, k)).1.1 := by
  by_cases hm : m.state = .running
  · obtain ⟨r, hb⟩ := hc.exists_backend hm
    rw [drop_of_running hm hb, hb]
    exact .closes (.refl s)
  · have hb : m.backend = none := by
      cases hb : m.backend with
      | none => rfl
      | some r => exact absurd (hc.state_of_backend hb) hm
    rw [drop_of_refused hm, hb]
    exact .keeps (.refl s)

end Operations

/-! ## Many monitors -/

/-- The monitors of a process, and the system that they share. -/
structure Fleet where
  monitors : List (Monitor Registration)
  system : System

namespace Fleet

/-- The registrations that the monitors have. -/
def held (f : Fleet) : List Registration := f.monitors.filterMap Monitor.backend

/-- The number of monitors that are running. -/
def running (f : Fleet) : Nat := f.monitors.countP Monitor.isRunning

/-- What can happen between two points of rest. Which monitor is operated, with which receiver, and
what the operation is, is open; so is what happens to the adapters of the system. -/
inductive Step : Fleet → Handover → Fleet → Prop
  | create (monitors : List (Monitor Registration)) (s : System) :
      Step ⟨monitors, s⟩ ⟨none, none⟩ ⟨.new Registration :: monitors, s⟩
  | perform {κ : Type} {receiver : ChangeEvent → κ → List Action × κ}
      {front back : List (Monitor Registration)} {m : Monitor Registration} {s : System} {k : κ}
      {op : Monitor.Operation} {t : Monitor.Turn (System × κ) Registration}
      (hp : Monitor.Performs (Registration.host receiver) m (s, k) op t) :
      Step ⟨front ++ m :: back, s⟩ ⟨m.backend, t.monitor.backend⟩
        ⟨front ++ t.monitor :: back, t.world.1⟩
  | drop {κ : Type} (receiver : ChangeEvent → κ → List Action × κ)
      (front back : List (Monitor Registration)) (m : Monitor Registration) (s : System) (k : κ) :
      Step ⟨front ++ m :: back, s⟩ ⟨m.backend, none⟩
        ⟨front ++ back, (m.drop (Registration.host receiver) (s, k)).1.1⟩
  | enumerate (monitors : List (Monitor Registration)) (s : System) :
      Step ⟨monitors, s⟩ ⟨none, none⟩ ⟨monitors, s.fetch.2⟩
  /-- The adapters of the system are others from now on. -/
  | adapters (monitors : List (Monitor Registration)) (s : System) (adapters : List Adapter) :
      Step ⟨monitors, s⟩ ⟨none, none⟩ ⟨monitors, { s with adapters }⟩
  /-- The system posts a notification. -/
  | notify (monitors : List (Monitor Registration)) (s : System) (n : Notification) :
      Step ⟨monitors, s⟩ ⟨none, none⟩ ⟨monitors, s.post n⟩

/-- `Runs s₀ hs f`: starting without monitors in the system `s₀`, the steps with the handovers
listed lead to `f`. -/
inductive Runs (s₀ : System) : List Handover → Fleet → Prop
  | fresh : Runs s₀ [] ⟨[], s₀⟩
  | step {hs : List Handover} {f f' : Fleet} {h : Handover} (hr : Runs s₀ hs f)
      (hf : Step f h f') : Runs s₀ (hs ++ [h]) f'

/-- The monitors are consistent. -/
def Consistent (f : Fleet) : Prop := ∀ m ∈ f.monitors, m.Consistent

/-- While a monitor has a registration, references are held. -/
theorem length_held_ne_zero {f : Fleet} {m : Monitor Registration} (hm : m ∈ f.monitors)
    (hb : m.backend.isSome = true) : f.held.length ≠ 0 := by
  obtain ⟨r, hr⟩ := Option.isSome_iff_exists.mp hb
  have hmem : r ∈ f.held := List.mem_filterMap.mpr ⟨m, hm, hr⟩
  have hpos := List.length_pos_of_mem hmem
  omega

theorem Step.consistent {f f' : Fleet} {h : Handover} (hst : Step f h f') (hf : f.Consistent) :
    f'.Consistent := by
  intro m' hm'
  cases hst with
  | create monitors s =>
      rcases List.mem_cons.mp hm' with rfl | hm'
      · exact Monitor.consistent_new
      · exact hf m' hm'
  | @perform κ receiver front back m s k op t hp =>
      have hm : m.Consistent := hf m (List.mem_append_right _ List.mem_cons_self)
      rcases List.mem_append.mp hm' with hm' | hm'
      · exact hf m' (List.mem_append_left _ hm')
      · rcases List.mem_cons.mp hm' with rfl | hm'
        · exact (hp.lives hm).consistent
        · exact hf m' (List.mem_append_right _ (List.mem_cons_of_mem _ hm'))
  | drop receiver front back m s k =>
      rcases List.mem_append.mp hm' with hm' | hm'
      · exact hf m' (List.mem_append_left _ hm')
      · exact hf m' (List.mem_append_right _ (List.mem_cons_of_mem _ hm'))
  | enumerate monitors s => exact hf m' hm'
  | adapters monitors s adapters => exact hf m' hm'
  | notify monitors s n => exact hf m' hm'

/-- A step moves the system in one of the five ways, if the references are those of the monitors. -/
theorem Step.moves {f f' : Fleet} {h : Handover} (hst : Step f h f') (hf : f.Consistent)
    (hholders : f.system.holders = f.held.length) : Moves f.system h f'.system := by
  -- What an operation of a monitor needs: its own reference is among those that are held.
  have hheld : ∀ m ∈ f.monitors, m.backend.isSome = true → f.system.holders ≠ 0 := by
    intro m hm hb
    rw [hholders]
    exact length_held_ne_zero hm hb
  cases hst with
  | create monitors s => exact .keeps (.refl s)
  | @perform κ receiver front back m s k op t hp =>
      have hm : m ∈ front ++ m :: back := List.mem_append_right _ List.mem_cons_self
      exact moves_of_performs (hf m hm) (hheld m hm) hp
  | drop receiver front back m s k =>
      have hm : m ∈ front ++ m :: back := List.mem_append_right _ List.mem_cons_self
      exact moves_drop (hf m hm) k
  | enumerate monitors s => exact .fetches
  | adapters monitors s adapters => exact .keeps (s.onlyAsks_adapters adapters)
  | notify monitors s n => exact .keeps (s.onlyAsks_post n)

/-- A step changes the registration of the monitor it is about, and leaves those of the others. -/
theorem Step.held_eq {f f' : Fleet} {h : Handover} (hst : Step f h f') :
    ∃ front back, f.held = front ++ h.before.toList ++ back ∧
      f'.held = front ++ h.after.toList ++ back := by
  have hsplit : ∀ (front back : List (Monitor Registration)) (m : Monitor Registration),
      (front ++ m :: back).filterMap Monitor.backend =
        front.filterMap Monitor.backend ++ m.backend.toList ++ back.filterMap Monitor.backend := by
    intro front back m
    rw [List.filterMap_append, List.filterMap_cons, List.append_assoc]
    cases m.backend <;> rfl
  cases hst with
  | create monitors s => exact ⟨[], monitors.filterMap Monitor.backend, rfl, rfl⟩
  | perform hp => exact ⟨_, _, hsplit _ _ _, hsplit _ _ _⟩
  | drop receiver front back m s k =>
      refine ⟨_, _, hsplit _ _ _, ?_⟩
      rw [held, List.filterMap_append, Option.toList_none, List.append_nil]
  | enumerate monitors s => exact ⟨[], monitors.filterMap Monitor.backend, rfl, rfl⟩
  | adapters monitors s adapters => exact ⟨[], monitors.filterMap Monitor.backend, rfl, rfl⟩
  | notify monitors s n => exact ⟨[], monitors.filterMap Monitor.backend, rfl, rfl⟩

/-! ## Runs -/

/-- What every run keeps up: the references are those of the registrations that the monitors have,
each registration that was opened was closed or is one of these, and their queues are numbered in
order. -/
structure Sound (s₀ : System) (hs : List Handover) (f : Fleet) : Prop where
  consistent : f.Consistent
  balanced : s₀.Balanced f.system f.held.length (opened hs).length (closed hs).length
  numbered : opened hs = (List.range (opened hs).length).map fun i => ⟨s₀.nextQueue + i⟩
  held : (opened hs).Perm (closed hs ++ f.held)

theorem opened_append_singleton (hs : List Handover) (h : Handover) :
    opened (hs ++ [h]) = opened hs ++ h.opened?.toList := by
  rw [opened, List.filterMap_append, opened, List.filterMap_cons]
  cases h.opened? <;> rfl

theorem closed_append_singleton (hs : List Handover) (h : Handover) :
    closed (hs ++ [h]) = closed hs ++ h.closed?.toList := by
  rw [closed, List.filterMap_append, closed, List.filterMap_cons]
  cases h.closed? <;> rfl

theorem sound_fresh {s₀ : System} (hcalls : s₀.calls = []) (hholders : s₀.holders = 0) :
    Sound s₀ [] ⟨[], s₀⟩ where
  consistent := fun _ hm => by cases hm
  balanced := System.balanced_fresh hcalls hholders
  numbered := rfl
  held := .refl _

theorem Sound.step {s₀ : System} {hs : List Handover} {f f' : Fleet} {h : Handover}
    (hf : Sound s₀ hs f) (hst : Step f h f') : Sound s₀ (hs ++ [h]) f' := by
  have hmoves := hst.moves hf.consistent hf.balanced.holders
  obtain ⟨front, back, hheld, hheld'⟩ := hst.held_eq
  -- What was opened or there before is closed or there afterwards, in number and one by one.
  have hperm := hmoves.conserved
  have hlength := hperm.length_eq
  rw [List.length_append, List.length_append] at hlength
  have hlengths : f'.held.length + h.closed?.toList.length =
      f.held.length + h.opened?.toList.length := by
    rw [hheld, hheld']
    simp only [List.length_append]
    omega
  have hbalanced := hmoves.balanced hf.balanced hlengths
  refine ⟨hst.consistent hf.consistent, ?_, ?_, ?_⟩
  · rw [opened_append_singleton, closed_append_singleton, List.length_append, List.length_append]
    exact hbalanced
  · rw [opened_append_singleton, List.length_append]
    exact hmoves.numbered hf.balanced hf.numbered
  · rw [opened_append_singleton, closed_append_singleton, List.perm_iff_count]
    intro r
    have hcount := hf.held.count_eq r
    have hcount' := hperm.count_eq r
    rw [hheld] at hcount
    rw [hheld']
    simp only [List.count_append] at hcount hcount' ⊢
    omega

/-- Every run is sound, whatever the plan of the system is. -/
theorem Runs.sound {s₀ : System} {hs : List Handover} {f : Fleet} (hcalls : s₀.calls = [])
    (hholders : s₀.holders = 0) (hr : Runs s₀ hs f) : Sound s₀ hs f := by
  induction hr with
  | fresh => exact sound_fresh hcalls hholders
  | step hr hst ih => exact ih.step hst

end Fleet

end AddressWatch.Windows
