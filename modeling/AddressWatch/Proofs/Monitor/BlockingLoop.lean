/-
  AddressWatch.Proofs.Monitor.BlockingLoop

  What the blocking loop does. The calls it makes are the iterates of a session (`Session.after`),
  and it makes them up to the first one that fails or at whose end the shutdown flag is raised
  (`Session.Concludes`). What can be seen of the loop is what can be seen of these calls, in order
  (`Session.timeline`), and its result is that of the last one.
-/

import Mathlib.Data.List.Range
import Mathlib.Data.Nat.Find
import AddressWatch.Monitor.Script
import AddressWatch.Proofs.Monitor.Operation

namespace AddressWatch

/-- Whether an effect is a call of the source, a delivery or a pause. -/
def Effect.ofLoop : Effect → Bool
  | .asked _ | .delivered _ | .paused _ => true
  | _ => false

namespace Session

variable {σ β : Type}

section Calls

variable (h : Host σ β) (timeout : Wait)

/-- The session after a number of calls. -/
def after : Nat → Session σ β → Session σ β
  | 0, s => s
  | n + 1, s => after n (s.next h timeout)

/-- Whether the loop makes no call after the next one: it fails, or the flag is raised at its
end. -/
def Concludes (s : Session σ β) : Prop :=
  (∃ e, (s.reaction h timeout).outcome = .error e) ∨ (s.next h timeout).raised = true

/-- The pause that belongs to the next call. -/
def pause (backoff : Duration) (s : Session σ β) : List Effect :=
  match (s.reaction h timeout).outcome with
  | .ok .interrupted => [.paused backoff]
  | _ => []

/-- What can be seen of the next call: the call, the events it emits, and the pause after it. -/
def timeline (backoff : Duration) (s : Session σ β) : List Effect :=
  .asked timeout :: (s.reaction h timeout).events.map .delivered ++ s.pause h timeout backoff

end Calls

variable {h : Host σ β} {timeout : Wait}

/-- A call that does not conclude the loop succeeds and leaves the flag down. -/
theorem ok_of_not_concludes {s : Session σ β} (hs : ¬ s.Concludes h timeout) :
    (∃ outcome, (s.reaction h timeout).outcome = .ok outcome) ∧
      (s.next h timeout).raised = false := by
  rw [Concludes, not_or] at hs
  obtain ⟨herror, hraised⟩ := hs
  refine ⟨?_, by simpa using hraised⟩
  cases ho : (s.reaction h timeout).outcome with
  | ok outcome => exact ⟨outcome, rfl⟩
  | error e => exact absurd ⟨e, ho⟩ herror

/-- All that the receiver is given in a call are the events that the source emits. -/
theorem filter_relay (raised : Bool) (w : σ) (os : List Occurrence) :
    (Monitor.relay h raised w os).2.2.filter Effect.ofLoop =
      (os.filterMap Occurrence.change?).map .delivered := by
  have haside : ∀ actions : List Action,
      (actions.map Effect.performed).filter Effect.ofLoop = [] := by
    intro actions
    rw [List.filter_eq_nil_iff]
    simp [Effect.ofLoop]
  induction os generalizing raised w with
  | nil => rfl
  | cons o rest ih =>
      cases o with
      | action a => exact ih _ _
      | signal =>
          show (h.signalled.map Effect.performed ++ _).filter Effect.ofLoop = _
          rw [List.filter_append, haside]
          exact ih _ _
      | change event =>
          -- Of the log line, the delivery and what the receiver does, the delivery is kept.
          show Effect.delivered event :: ((h.receive event w).1.map Effect.performed ++ _).filter
            Effect.ofLoop = _
          rw [List.filter_append, haside]
          exact congrArg _ (ih _ _)

theorem filter_effects (s : Session σ β) :
    (s.effects h timeout).filter Effect.ofLoop =
      .asked timeout :: (s.reaction h timeout).events.map .delivered :=
  congrArg _ (filter_relay _ _ _)

/-- A round of the loop shows the timeline of its call. -/
theorem filter_roundEffects {m : Monitor β} {s : Session σ β} {outcome : Outcome}
    (ho : (s.reaction h (some m.slice)).outcome = .ok outcome) :
    (m.roundEffects h s outcome).filter Effect.ofLoop = s.timeline h (some m.slice) m.backoff := by
  rw [Monitor.roundEffects, List.filter_append, filter_effects, timeline, pause, ho]
  cases outcome <;> rfl

end Session

namespace Monitor

variable {σ β : Type} {h : Host σ β}

/-- The loop returned with `t` after the calls up to the one with number `k`, counted from zero, of
the session `s` of the monitor `m`. -/
structure ReturnsAt (h : Host σ β) (m : Monitor β) (s : Session σ β) (k : Nat)
    (t : Step σ β Unit) : Prop where
  /-- The calls, deliveries and pauses are those of the calls up to `k`, in order. -/
  timeline : t.effects.filter Effect.ofLoop = (List.range (k + 1)).flatMap fun i =>
    (s.after h (some m.slice) i).timeline h (some m.slice) m.backoff
  /-- The result is that of the last call. -/
  error : errorOf t.result =
    errorOf ((s.after h (some m.slice) k).reaction h (some m.slice)).outcome
  /-- Without an error the flag is raised and the monitor still runs, with the source as the last
  call left it. -/
  ok : t.result = .ok () → (s.after h (some m.slice) (k + 1)).raised = true ∧
    t.monitor = m.resumed (s.after h (some m.slice) (k + 1)) ∧
    t.world = (s.after h (some m.slice) (k + 1)).world

/-- A call that fails shows nothing but the call and the events it emitted before it failed. -/
theorem process_of_failure {m : Monitor β} {b : β} {w : σ} {timeout : Wait} {e : MonitorError}
    (hb : m.backend = some b) (ho : ((m.session b w).reaction h timeout).outcome = .error e) :
    (m.process h timeout w).result = .error e ∧
      (m.process h timeout w).effects.filter Effect.ofLoop =
        .asked timeout :: ((m.session b w).reaction h timeout).events.map .delivered := by
  cases he : e.isFatal with
  | false =>
      rw [process_of_error hb ho he]
      exact ⟨rfl, Session.filter_effects _⟩
  | true =>
      -- The log line and the release behind the call are no effects of the loop.
      rw [process_of_fatal hb ho he]
      refine ⟨rfl, ?_⟩
      show ((m.session b w).effects h timeout ++ [fatalLog e, .released]).filter _ = _
      rw [List.filter_append, Session.filter_effects]
      exact List.append_nil _

/-- A call shows itself and the events that the source emits in it, whatever it comes to. -/
theorem filter_process {m : Monitor β} {b : β} {w : σ} {timeout : Wait} (hb : m.backend = some b) :
    (m.process h timeout w).effects.filter Effect.ofLoop =
      .asked timeout :: ((m.session b w).reaction h timeout).events.map .delivered := by
  have hbehind : (aftermath (h.process b timeout w).outcome).filter Effect.ofLoop = [] := by
    cases (h.process b timeout w).outcome with
    | ok outcome => rfl
    | error e =>
        rw [aftermath]
        split <;> rfl
  rw [effects_process hb, List.filter_append, Session.filter_effects, hbehind, List.append_nil]

/-- A call that fails is the last one of the loop. -/
theorem slices_of_failure {m : Monitor β} {b : β} {w : σ} {e : MonitorError}
    (hm : m.isRunning = true) (hf : m.shutdown = false) (hb : m.backend = some b)
    (ho : ((m.session b w).reaction h (some m.slice)).outcome = .error e) (fuel : Nat) :
    ∃ t, slices h (fuel + 1) m w = some t ∧ ReturnsAt h m (m.session b w) 0 t := by
  obtain ⟨hresult, htimeline⟩ := process_of_failure hb ho
  refine ⟨_, slices_of_error fuel hm hf hresult, ?_, ?_, ?_⟩
  · show (m.process h (some m.slice) w).effects.filter Effect.ofLoop = _
    rw [htimeline]
    simp [Session.after, Session.timeline, Session.pause, ho]
  · exact congrArg errorOf ho.symm
  · intro hok
    cases hok

/-- The loop over a call that succeeds, and what it shows before the loop goes on. -/
theorem ReturnsAt.after_round {m : Monitor β} {s : Session σ β} {outcome : Outcome} {k : Nat}
    {t : Step σ β Unit} (ho : (s.reaction h (some m.slice)).outcome = .ok outcome)
    (ht : ReturnsAt h (m.resumed (s.next h (some m.slice))) (s.next h (some m.slice)) k t) :
    ReturnsAt h m s (k + 1) (t.after (m.roundEffects h s outcome)) := by
  refine ⟨?_, ht.error, ht.ok⟩
  -- The calls after the round count from its session on: they are its numbers less one.
  have hrange : List.range (k + 1 + 1) = 0 :: (List.range (k + 1)).map Nat.succ :=
    List.range_succ_eq_map
  show (m.roundEffects h s outcome ++ t.effects).filter Effect.ofLoop = _
  rw [List.filter_append, Session.filter_roundEffects ho, ht.timeline, hrange, List.flatMap_cons,
    List.flatMap_map]
  rfl

/-- The loop makes the calls up to the first one that concludes it, and no other. -/
theorem slices_of_first {k : Nat} {m : Monitor β} {b : β} {w : σ} (hm : m.isRunning = true)
    (hf : m.shutdown = false) (hb : m.backend = some b)
    (hbefore : ∀ i < k, ¬ ((m.session b w).after h (some m.slice) i).Concludes h (some m.slice))
    (hk : ((m.session b w).after h (some m.slice) k).Concludes h (some m.slice)) {fuel : Nat}
    (hfuel : k + 2 ≤ fuel) :
    ∃ t, slices h fuel m w = some t ∧ ReturnsAt h m (m.session b w) k t := by
  obtain ⟨fuel, rfl⟩ : ∃ n, fuel = n + 1 := ⟨fuel - 1, by omega⟩
  -- On the number of calls that do not conclude the loop, each of which uses up one round.
  induction k generalizing m b w fuel with
  | zero =>
      cases ho : ((m.session b w).reaction h (some m.slice)).outcome with
      | error e => exact slices_of_failure hm hf hb ho fuel
      | ok outcome =>
          -- The call succeeded, so the flag was raised: the next round makes no call.
          have hraised : ((m.session b w).next h (some m.slice)).raised = true := by
            rcases hk with ⟨e, he⟩ | hraised
            · rw [Session.after, ho] at he
              cases he
            · exact hraised
          obtain ⟨fuel, rfl⟩ : ∃ n, fuel = n + 1 := ⟨fuel - 1, by omega⟩
          rw [slices_of_ok (fuel + 1) hm hf hb ho, slices_of_shutdown _ fuel hraised]
          refine ⟨_, rfl, ?_, ?_, ?_⟩
          · show (m.roundEffects h (m.session b w) outcome ++ [loopEnd]).filter Effect.ofLoop = _
            rw [List.filter_append, Session.filter_roundEffects ho]
            simp [Session.after, loopEnd, Effect.logged, Effect.ofLoop]
          · exact (congrArg errorOf ho).symm
          · exact fun _ => ⟨hraised, rfl, rfl⟩
  | succ k ih =>
      obtain ⟨⟨outcome, ho⟩, hdown⟩ := Session.ok_of_not_concludes (hbefore 0 (by omega))
      rw [Session.after] at ho hdown
      obtain ⟨fuel, rfl⟩ : ∃ n, fuel = n + 1 := ⟨fuel - 1, by omega⟩
      rw [slices_of_ok (fuel + 1) hm hf hb ho]
      obtain ⟨t, ht, hreturns⟩ := ih (m := m.resumed ((m.session b w).next h (some m.slice)))
        (b := ((m.session b w).next h (some m.slice)).backend)
        (w := ((m.session b w).next h (some m.slice)).world) hm hdown rfl
        (fun i hi => hbefore (i + 1) (by omega)) hk fuel (by omega)
      rw [ht]
      exact ⟨_, rfl, hreturns.after_round ho⟩

/-! ## What the loop shows -/

/-- Deliveries are effects of the loop. -/
theorem events_filter_ofLoop (effects : List Effect) :
    Effect.events (effects.filter Effect.ofLoop) = Effect.events effects := by
  rw [Effect.events, Effect.events, List.filterMap_filter]
  congr 1
  funext e
  cases e <;> rfl

/-- Calls are effects of the loop. -/
theorem timeouts_filter_ofLoop (effects : List Effect) :
    Effect.timeouts (effects.filter Effect.ofLoop) = Effect.timeouts effects := by
  rw [Effect.timeouts, Effect.timeouts, List.filterMap_filter]
  congr 1
  funext e
  cases e <;> rfl

/-- The receiver is given the events that the source emits in a call. -/
theorem events_process {m : Monitor β} {b : β} {w : σ} {timeout : Wait} (hb : m.backend = some b) :
    Effect.events (m.process h timeout w).effects =
      ((m.session b w).reaction h timeout).events := by
  rw [← events_filter_ofLoop, filter_process hb]
  show Effect.events (List.map Effect.delivered _) = _
  rw [Effect.events, List.filterMap_map]
  exact List.filterMap_some

/-- A monitor with a source asks it once in a call. -/
theorem timeouts_process {m : Monitor β} {b : β} {w : σ} {timeout : Wait}
    (hb : m.backend = some b) : Effect.timeouts (m.process h timeout w).effects = [timeout] := by
  rw [← timeouts_filter_ofLoop, filter_process hb]
  show timeout :: Effect.timeouts (List.map Effect.delivered _) = _
  rw [Effect.timeouts, List.filterMap_map]
  exact congrArg _ (List.filterMap_eq_nil_iff.mpr fun _ _ => rfl)

theorem events_timeline (timeout : Wait) (backoff : Duration) (s : Session σ β) :
    Effect.events (s.timeline h timeout backoff) = (s.reaction h timeout).events := by
  have hpause : Effect.events (s.pause h timeout backoff) = [] := by
    rw [Session.pause]
    split <;> rfl
  show Effect.events ((s.reaction h timeout).events.map .delivered ++ _) = _
  rw [Effect.events_append, hpause, List.append_nil, Effect.events, List.filterMap_map]
  exact List.filterMap_some

theorem timeouts_timeline (timeout : Wait) (backoff : Duration) (s : Session σ β) :
    Effect.timeouts (s.timeline h timeout backoff) = [timeout] := by
  have hpause : Effect.timeouts (s.pause h timeout backoff) = [] := by
    rw [Session.pause]
    split <;> rfl
  have hdelivered : Effect.timeouts ((s.reaction h timeout).events.map .delivered) = [] := by
    rw [Effect.timeouts, List.filterMap_map]
    exact List.filterMap_eq_nil_iff.mpr fun _ _ => rfl
  show timeout :: Effect.timeouts ((s.reaction h timeout).events.map .delivered ++ _) = _
  rw [Effect.timeouts_append, hpause, hdelivered]
  rfl

/-- The receiver is given the events of the calls, in order. -/
theorem ReturnsAt.events {m : Monitor β} {s : Session σ β} {k : Nat} {t : Step σ β Unit}
    (ht : ReturnsAt h m s k t) :
    Effect.events t.effects = (List.range (k + 1)).flatMap fun i =>
      ((s.after h (some m.slice) i).reaction h (some m.slice)).events := by
  rw [← events_filter_ofLoop, ht.timeline, Effect.events, List.filterMap_flatMap]
  congr 1
  funext i
  exact events_timeline _ _ _

/-- Each call waits for a slice. -/
theorem ReturnsAt.timeouts {m : Monitor β} {s : Session σ β} {k : Nat} {t : Step σ β Unit}
    (ht : ReturnsAt h m s k t) :
    Effect.timeouts t.effects = List.replicate (k + 1) (some m.slice) := by
  have hone : (fun i => Effect.timeouts
      ((s.after h (some m.slice) i).timeline h (some m.slice) m.backoff)) =
      fun _ : Nat => [some m.slice] := by
    funext i
    exact timeouts_timeline _ _ _
  have hflat : Effect.timeouts (t.effects.filter Effect.ofLoop) =
      (List.range (k + 1)).flatMap fun _ => [some m.slice] := by
    rw [ht.timeline, ← hone]
    exact List.filterMap_flatMap
  rw [← timeouts_filter_ofLoop, hflat, ← List.map_eq_flatMap, List.map_const', List.length_range]

/-- **The blocking loop.** A running monitor whose flag is raised makes no call, and the loop
returns. Otherwise, if some call fails or ends with the flag raised, let `k` be the number of the
first such call, counted from zero: the loop makes that call and those before it, each with the
slice as its timeout, delivers the events they emit, pauses once after each interrupted one, and
returns what the last one comes to; without an error the flag is raised and the monitor runs on. -/
theorem blockingLoop (h : Host σ β) {m : Monitor β} {b : β} (w : σ) (hm : m.state = .running)
    (hb : m.backend = some b) :
    (m.shutdown = true → ∀ fuel, 0 < fuel →
      m.processBlocking h fuel w = some ⟨.ok (), m, w, [loopEnd]⟩) ∧
    (m.shutdown = false →
      (∃ n, ((m.session b w).after h (some m.slice) n).Concludes h (some m.slice)) →
      ∃ k, ((m.session b w).after h (some m.slice) k).Concludes h (some m.slice) ∧
        (∀ i < k, ¬ ((m.session b w).after h (some m.slice) i).Concludes h (some m.slice)) ∧
        ∀ fuel, k + 2 ≤ fuel → ∃ t, m.processBlocking h fuel w = some t ∧
          t.effects.filter Effect.ofLoop = ((List.range (k + 1)).flatMap fun i =>
            ((m.session b w).after h (some m.slice) i).timeline h (some m.slice) m.backoff) ∧
          Effect.timeouts t.effects = List.replicate (k + 1) (some m.slice) ∧
          Effect.events t.effects = ((List.range (k + 1)).flatMap fun i =>
            (((m.session b w).after h (some m.slice) i).reaction h (some m.slice)).events) ∧
          errorOf t.result = errorOf
            (((m.session b w).after h (some m.slice) k).reaction h (some m.slice)).outcome ∧
          (t.result = .ok () → t.monitor.shutdown = true ∧ t.monitor.state = .running ∧
            t.monitor.backend =
              some ((m.session b w).after h (some m.slice) (k + 1)).backend)) := by
  have hrunning := isRunning_iff.mpr hm
  constructor
  · intro hf fuel hfuel
    obtain ⟨fuel, rfl⟩ : ∃ n, fuel = n + 1 := ⟨fuel - 1, by omega⟩
    rw [processBlocking, if_pos hrunning]
    exact slices_of_shutdown w fuel hf
  · intro hf hn
    -- Whether a call concludes the loop is not decided here: the first one is found classically.
    classical
    refine ⟨Nat.find hn, Nat.find_spec hn, fun i hi => Nat.find_min hn hi, ?_⟩
    intro fuel hfuel
    obtain ⟨t, ht, hreturns⟩ := slices_of_first hrunning hf hb (fun i hi => Nat.find_min hn hi)
      (Nat.find_spec hn) hfuel
    refine ⟨t, ?_, hreturns.timeline, hreturns.timeouts, hreturns.events, hreturns.error, ?_⟩
    · rw [processBlocking, if_pos hrunning]
      exact ht
    · intro hok
      obtain ⟨hraised, hmonitor, -⟩ := hreturns.ok hok
      rw [hmonitor]
      exact ⟨hraised, hm, rfl⟩

/-- The receiver raises the flag at the first of two events of the second call; the loop delivers
both, and no event of the third call. -/
theorem blockingLoop_of_trigger_in_batch :
    let e₁ : ChangeEvent := ⟨"eth0", .v4 ⟨10, 0, 0, 1⟩, .removed⟩
    let e₂ : ChangeEvent := ⟨"eth0", .v4 ⟨10, 0, 0, 2⟩, .added⟩
    let e₃ : ChangeEvent := ⟨"eth1", .v4 ⟨10, 0, 1, 1⟩, .added⟩
    let m : Monitor Unit := { Monitor.new Unit with state := .running, backend := some () }
    let w : Script × EventCounter :=
      (⟨[], [⟨false, [], .ok .interrupted⟩, ⟨false, [e₁, e₂], .ok (.processed 2)⟩,
        ⟨false, [e₃], .ok (.processed 1)⟩]⟩, ⟨0, some 1⟩)
    ∃ t, m.processBlocking Script.host 3 w = some t ∧ errorOf t.result = none ∧
      Effect.events t.effects = [e₁, e₂] ∧
      Effect.timeouts t.effects = [some defaultSlice, some defaultSlice] := by
  intro e₁ e₂ e₃ m w
  obtain ⟨k, hk, hbefore, hloop⟩ :=
    (blockingLoop Script.host w (m := m) rfl rfl).2 rfl ⟨1, Or.inr rfl⟩
  -- The interrupted call neither fails nor raises the flag.
  have hlow : k ≠ 0 := by
    rintro rfl
    rcases hk with ⟨e, he⟩ | hraised
    · cases he
    · cases hraised
  have hhigh : ¬ 1 < k := fun h1 => hbefore 1 h1 (Or.inr rfl)
  obtain rfl : k = 1 := by omega
  obtain ⟨t, ht, -, htimeouts, hevents, herror, -⟩ := hloop 3 (by omega)
  exact ⟨t, ht, herror, hevents, htimeouts⟩

end Monitor

end AddressWatch
