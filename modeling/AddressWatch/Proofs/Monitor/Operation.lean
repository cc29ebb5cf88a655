/-
  AddressWatch.Proofs.Monitor.Operation

  The operations of a monitor as a transition system. A call of the source is described by the
  session it is made in (`Session`), an operation by the turn it comes to (`Performs`), and a life
  by the turns taken so far (`Reaches`). The blocking loop is taken apart into rounds, so that what
  it preserves follows from what one call of the source preserves (`slices_induction`).
-/

import Mathlib.Data.List.Basic
import AddressWatch.Monitor

namespace AddressWatch

/-! ## Counting and projecting effects -/

namespace Effect

theorem opens_append (xs ys : List Effect) : opens (xs ++ ys) = opens xs + opens ys :=
  List.count_append

theorem releases_append (xs ys : List Effect) : releases (xs ++ ys) = releases xs + releases ys :=
  List.count_append

theorem openings_append (xs ys : List Effect) : openings (xs ++ ys) = openings xs + openings ys :=
  List.countP_append

theorem timeouts_append (xs ys : List Effect) : timeouts (xs ++ ys) = timeouts xs ++ timeouts ys :=
  List.filterMap_append

theorem events_append (xs ys : List Effect) : events (xs ++ ys) = events xs ++ events ys :=
  List.filterMap_append

end Effect

/-! ## Occurrences and the receiver -/

/-- The event of an occurrence, if it is a change. -/
def Occurrence.change? : Occurrence → Option ChangeEvent
  | .change event => some event
  | _ => none

/-- The events that a call of the source emits, in order. -/
def Reaction.events {σ β : Type} (r : Reaction σ β) : List ChangeEvent :=
  r.occurrences.filterMap Occurrence.change?

namespace Host

variable {σ β : Type} (h : Host σ β)

/-- What is done on the side when something occurs. -/
def actions (w : σ) : Occurrence → List Action
  | .action a => [a]
  | .signal => h.signalled
  | .change event => (h.receive event w).1

/-- The world after an occurrence: the receiver has been given the change, if it is one. -/
def worldAfter (w : σ) : Occurrence → σ
  | .change event => (h.receive event w).2
  | _ => w

/-- Whether one of the occurrences raises the shutdown flag. -/
def triggered : σ → List Occurrence → Bool
  | _, [] => false
  | w, o :: rest => (h.actions w o).contains .shutdown || triggered (h.worldAfter w o) rest

/-- What the receiver does not touch stays as it was through all occurrences. -/
theorem foldl_worldAfter {h : Host σ β} {τ : Type} (part : σ → τ)
    (hpart : ∀ event w, part (h.receive event w).2 = part w) (os : List Occurrence) (w : σ) :
    part (os.foldl h.worldAfter w) = part w := by
  induction os generalizing w with
  | nil => rfl
  | cons o rest ih =>
      rw [List.foldl_cons, ih]
      cases o with
      | change event => exact hpart event w
      | signal => rfl
      | action a => rfl

end Host

/-- Occurrences raise the flag if one of them does, and are given to the receiver in order. -/
theorem Monitor.relay_eq {σ β : Type} (h : Host σ β) (raised : Bool) (w : σ)
    (os : List Occurrence) :
    relay h raised w os =
      (raised || h.triggered w os, os.foldl h.worldAfter w, (relay h raised w os).2.2) := by
  -- The effects stay folded up: what later calls depend on is the flag and the world.
  have hfirst : (relay h raised w os).1 = (raised || h.triggered w os) ∧
      (relay h raised w os).2.1 = os.foldl h.worldAfter w := by
    induction os generalizing raised w with
    | nil => exact ⟨(Bool.or_false raised).symm, rfl⟩
    | cons o rest ih =>
        rw [Host.triggered, List.foldl_cons, ← Bool.or_assoc]
        cases o with
        | action a => exact ih _ _
        | signal => exact ih _ _
        | change event => exact ih _ _
  exact Prod.ext hfirst.1 (Prod.ext hfirst.2 rfl)

/-! ## Sessions: a source between two calls -/

/-- A source between two calls, with the shutdown flag and the world as they are then. -/
structure Session (σ β : Type) where
  backend : β
  /-- Whether the shutdown flag is raised. -/
  raised : Bool
  world : σ

namespace Session

variable {σ β : Type} (h : Host σ β) (timeout : Wait)

/-- What the next call of the source comes to. -/
def reaction (s : Session σ β) : Reaction σ β := h.process s.backend timeout s.world

/-- The session after the next call, when the receiver has been given its events. -/
def next (s : Session σ β) : Session σ β where
  backend := (s.reaction h timeout).backend
  raised := s.raised ||
    h.triggered (s.reaction h timeout).world (s.reaction h timeout).occurrences
  world := (s.reaction h timeout).occurrences.foldl h.worldAfter (s.reaction h timeout).world

/-- The effects of the next call. -/
def effects (s : Session σ β) : List Effect :=
  .asked timeout :: (Monitor.relay h s.raised (s.reaction h timeout).world
    (s.reaction h timeout).occurrences).2.2

end Session

namespace Monitor

variable {σ β : Type}

/-- The session in which a monitor asks its opened source `b`. -/
def session (m : Monitor β) (b : β) (w : σ) : Session σ β := ⟨b, m.shutdown, w⟩

/-- The monitor with the source and the flag of a session. -/
def resumed (m : Monitor β) (s : Session σ β) : Monitor β :=
  { m with backend := some s.backend, shutdown := s.raised }

/-- The monitor after a failure: only the last error is new. -/
def failed (m : Monitor β) (e : MonitorError) : Monitor β :=
  { m with lastError := some (.ofError e) }

/-- The monitor after its source was given back. -/
def halted (m : Monitor β) : Monitor β := { m with backend := none, state := .stopped }

theorem isRunning_iff {m : Monitor β} : m.isRunning = true ↔ m.state = .running := by
  rw [isRunning, beq_iff_eq]

/-- The monitor with its source opened. -/
def started (m : Monitor β) (b : β) : Monitor β := { m with backend := some b, state := .running }

/-! ## What one operation comes to -/

section Calls

variable {h : Host σ β} {m : Monitor β} {w : σ} {b : β} {timeout : Wait}

/-- The log lines of an opening, as effects. -/
def openingLog (o : Opening σ β) : List Effect := o.log.map fun line => .performed (.log line)

theorem start_of_ok (hm : m.state = .created) (ho : (h.openBackend w).backend = .ok b) :
    m.start h w =
      ⟨.ok (), m.started b, (h.openBackend w).world,
        openingLog (h.openBackend w) ++ [.opened true, .logged .debug "Monitor started"]⟩ := by
  rw [start, hm]
  simp only [ho]
  rfl

theorem start_of_error {e : MonitorError} (hm : m.state = .created)
    (ho : (h.openBackend w).backend = .error e) :
    m.start h w =
      ⟨.error e, m.failed e, (h.openBackend w).world,
        openingLog (h.openBackend w) ++
          [.opened false, .logged .warn ("Failed to start monitor: " ++ e.message)]⟩ := by
  rw [start, hm]
  simp only [ho]
  rfl

theorem start_of_refused (hm : m.state ≠ .created) :
    m.start h w = m.fail (.invalidState "start" m.state) w [] := by
  rw [start]
  cases hs : m.state with
  | created => exact absurd hs hm
  | running => rfl
  | stopped => rfl

theorem release_of_backend (hb : m.backend = some b) :
    m.release h w = (m.halted, h.release b w, [.released]) := by
  rw [release, hb]
  rfl

theorem stop_of_running (hm : m.state = .running) (hb : m.backend = some b) :
    m.stop h w =
      ⟨.ok (), m.halted, h.release b w, [.released, .logged .debug "Monitor stopped"]⟩ := by
  rw [stop, isRunning_iff.mpr hm, release_of_backend hb]
  rfl

theorem stop_of_refused (hm : m.state ≠ .running) : m.stop h w = m.fail .notRunning w [] := by
  rw [stop, if_neg (mt isRunning_iff.mp hm)]

theorem drop_of_running (hm : m.state = .running) (hb : m.backend = some b) :
    m.drop h w =
      (h.release b w, [.released, .logged .debug "Monitor released on drop"]) := by
  rw [drop, isRunning_iff.mpr hm, release_of_backend hb]
  rfl

theorem drop_of_refused (hm : m.state ≠ .running) : m.drop h w = (w, []) := by
  rw [drop, if_neg (mt isRunning_iff.mp hm)]

theorem processBlocking_of_refused (fuel : Nat) (hm : m.state ≠ .running) :
    m.processBlocking h fuel w = some (m.fail .notRunning w []) := by
  rw [processBlocking, if_neg (mt isRunning_iff.mp hm)]

theorem process_of_none (hb : m.backend = none) :
    m.process h timeout w = m.fail .notRunning w [] := by
  rw [process, hb]

/-- A call that succeeds leaves everything but the source and the flag as it was. -/
theorem process_of_ok {outcome : Outcome} (hb : m.backend = some b)
    (ho : ((m.session b w).reaction h timeout).outcome = .ok outcome) :
    m.process h timeout w =
      ⟨.ok outcome, m.resumed ((m.session b w).next h timeout), ((m.session b w).next h timeout).world,
        (m.session b w).effects h timeout⟩ := by
  have ho' : (h.process b timeout w).outcome = .ok outcome := ho
  simp only [process, hb, ho']
  rw [relay_eq]
  rfl

/-- An error that is not fatal leaves the source open. -/
theorem process_of_error {e : MonitorError} (hb : m.backend = some b)
    (ho : ((m.session b w).reaction h timeout).outcome = .error e) (he : e.isFatal = false) :
    m.process h timeout w =
      ⟨.error e, (m.resumed ((m.session b w).next h timeout)).failed e,
        ((m.session b w).next h timeout).world, (m.session b w).effects h timeout⟩ := by
  have ho' : (h.process b timeout w).outcome = .error e := ho
  simp only [process, hb, ho', he]
  rw [relay_eq]
  rfl

/-- The log line with which a fatal error is announced. -/
def fatalLog (e : MonitorError) : Effect :=
  .logged .error ("Monitor backend failed, stopping: " ++ e.message)

/-- A fatal error gives the source back. -/
theorem process_of_fatal {e : MonitorError} (hb : m.backend = some b)
    (ho : ((m.session b w).reaction h timeout).outcome = .error e) (he : e.isFatal = true) :
    m.process h timeout w =
      ⟨.error e, (m.resumed ((m.session b w).next h timeout)).halted.failed e,
        h.release ((m.session b w).next h timeout).backend ((m.session b w).next h timeout).world,
        (m.session b w).effects h timeout ++ [fatalLog e, .released]⟩ := by
  have ho' : (h.process b timeout w).outcome = .error e := ho
  simp only [process, hb, ho', he]
  rw [relay_eq]
  rfl

/-- What is done behind a call of the source: after a fatal error the source is given back. -/
def aftermath : Except MonitorError Outcome → List Effect
  | .error e => if e.isFatal then [fatalLog e, .released] else []
  | .ok _ => []

/-- The effects of a call are those of the source and the receiver, and what is done behind it. -/
theorem effects_process (hb : m.backend = some b) :
    (m.process h timeout w).effects =
      (m.session b w).effects h timeout ++ aftermath (h.process b timeout w).outcome := by
  cases ho : (h.process b timeout w).outcome with
  | ok outcome =>
      rw [process_of_ok hb ho]
      exact (List.append_nil _).symm
  | error e =>
      rw [aftermath]
      cases he : e.isFatal with
      | false =>
          rw [process_of_error hb ho he]
          exact (List.append_nil _).symm
      | true => rw [process_of_fatal hb ho he, if_pos rfl]

end Calls

/-! ## Rounds of the blocking loop -/

/-- The effect with which the blocking loop ends. -/
def loopEnd : Effect := .logged .debug "Blocking loop ended"

/-- What the next round of the loop comes to, for a session of the monitor. -/
def roundEffects (h : Host σ β) (m : Monitor β) (s : Session σ β) (outcome : Outcome) :
    List Effect :=
  s.effects h (some m.slice) ++ m.pauseAfter outcome

/-- A round whose call succeeds is followed by the loop over the session after it. -/
theorem slices_of_ok {h : Host σ β} {m : Monitor β} {w : σ} {b : β} {outcome : Outcome}
    (fuel : Nat) (hm : m.isRunning = true) (hf : m.shutdown = false) (hb : m.backend = some b)
    (ho : ((m.session b w).reaction h (some m.slice)).outcome = .ok outcome) :
    slices h (fuel + 1) m w =
      (slices h fuel (m.resumed ((m.session b w).next h (some m.slice)))
        ((m.session b w).next h (some m.slice)).world).map
          (·.after (m.roundEffects h (m.session b w) outcome)) := by
  rw [slices, hm, hf, process_of_ok hb ho]
  rfl

/-- A round whose call fails is the last one. -/
theorem slices_of_error {h : Host σ β} {m : Monitor β} {w : σ} {e : MonitorError}
    (fuel : Nat) (hm : m.isRunning = true) (hf : m.shutdown = false)
    (ho : (m.process h (some m.slice) w).result = .error e) :
    slices h (fuel + 1) m w =
      some { m.process h (some m.slice) w with result := .error e } := by
  rw [slices, hm, hf]
  simp [ho]

/-- A raised flag ends the loop before the next call. -/
theorem slices_of_shutdown {h : Host σ β} {m : Monitor β} (w : σ) (fuel : Nat)
    (hf : m.shutdown = true) :
    slices h (fuel + 1) m w = some ⟨.ok (), m, w, [loopEnd]⟩ := by
  rw [slices, hf]
  simp [loopEnd]

/-! ## Operations and lives -/

/-- What a caller can do with a monitor. A loop that has not returned shows in its rounds. -/
inductive Operation where
  | start
  | stop
  | process (timeout : Wait)
  /-- The blocking loop, from its call to its return. -/
  | processBlocking
  /-- One round of a blocking loop that goes on after it. -/
  | round
  | withShutdown (raised : Bool)
  | withSlice (slice : Duration)
  | withBackoff (backoff : Duration)
  /-- The flag is raised through a handle. -/
  | trigger
  deriving DecidableEq

/-- What an operation comes to, whatever it returns. -/
structure Turn (σ β : Type) where
  error : Option MonitorError
  monitor : Monitor β
  world : σ
  effects : List Effect

/-- The error of a result. -/
def errorOf {α : Type} : Except MonitorError α → Option MonitorError
  | .ok _ => none
  | .error e => some e

theorem errorOf_eq_some_iff {α : Type} {r : Except MonitorError α} {e : MonitorError} :
    errorOf r = some e ↔ r = .error e := by
  cases r with
  | ok a => exact iff_of_false nofun nofun
  | error e' => rw [errorOf, Option.some.injEq, Except.error.injEq]

theorem errorOf_eq_none_iff {α : Type} {r : Except MonitorError α} :
    errorOf r = none ↔ ∃ a, r = .ok a := by
  cases r with
  | ok a => exact iff_of_true rfl ⟨a, rfl⟩
  | error e => exact iff_of_false nofun nofun

/-- The turn of a step. -/
def Step.turn {α : Type} (s : Step σ β α) : Turn σ β := ⟨errorOf s.result, s.monitor, s.world, s.effects⟩

/-- The turn with effects before its own. -/
def Turn.after (earlier : List Effect) (t : Turn σ β) : Turn σ β :=
  { t with effects := earlier ++ t.effects }

/-- `Performs h m w op t`: asked of the monitor `m` in the world `w`, the operation comes to `t`. -/
inductive Performs (h : Host σ β) (m : Monitor β) (w : σ) : Operation → Turn σ β → Prop
  | start : Performs h m w .start (m.start h w).turn
  | stop : Performs h m w .stop (m.stop h w).turn
  | process (timeout : Wait) : Performs h m w (.process timeout) (m.process h timeout w).turn
  | processBlocking {fuel : Nat} {s : Step σ β Unit} (hs : m.processBlocking h fuel w = some s) :
      Performs h m w .processBlocking s.turn
  | round {outcome : Outcome} (hm : m.isRunning = true) (hf : m.shutdown = false)
      (ho : (m.process h (some m.slice) w).result = .ok outcome) :
      Performs h m w .round
        ⟨none, (m.process h (some m.slice) w).monitor, (m.process h (some m.slice) w).world,
          (m.process h (some m.slice) w).effects ++ m.pauseAfter outcome⟩
  | withShutdown (raised : Bool) :
      Performs h m w (.withShutdown raised) ⟨none, m.withShutdown raised, w, []⟩
  | withSlice (slice : Duration) : Performs h m w (.withSlice slice) ⟨none, m.withSlice slice, w, []⟩
  | withBackoff (backoff : Duration) :
      Performs h m w (.withBackoff backoff) ⟨none, m.withBackoff backoff, w, []⟩
  | trigger : Performs h m w .trigger ⟨none, m.trigger, w, []⟩

/-- `Reaches h turns m w`: a new monitor can come to `m`, in the world `w`, by the operations and
turns listed. Between two operations the world may change in any way. -/
inductive Reaches (h : Host σ β) : List (Operation × Turn σ β) → Monitor β → σ → Prop
  | new (w : σ) : Reaches h [] (.new β) w
  | meanwhile {turns : List (Operation × Turn σ β)} {m : Monitor β} {w : σ}
      (hr : Reaches h turns m w) (w' : σ) : Reaches h turns m w'
  | perform {turns : List (Operation × Turn σ β)} {m : Monitor β} {w : σ} {op : Operation}
      {t : Turn σ β} (hr : Reaches h turns m w) (hp : Performs h m w op t) :
      Reaches h (turns ++ [(op, t)]) t.monitor t.world

/-- The effects of turns, in order. -/
def allEffects (turns : List (Operation × Turn σ β)) : List Effect :=
  turns.flatMap fun turn => turn.2.effects

@[simp] theorem allEffects_nil : allEffects ([] : List (Operation × Turn σ β)) = [] := rfl

@[simp] theorem allEffects_append_singleton (turns : List (Operation × Turn σ β)) (op : Operation)
    (t : Turn σ β) : allEffects (turns ++ [(op, t)]) = allEffects turns ++ t.effects := by
  simp [allEffects]

/-! ## The loop as rounds -/

section Loop

variable {h : Host σ β}

/-- A call that succeeds is made by a monitor with a source. -/
theorem exists_backend_of_ok {m : Monitor β} {w : σ} {timeout : Wait} {outcome : Outcome}
    (ho : (m.process h timeout w).result = .ok outcome) :
    ∃ b, m.backend = some b ∧
      ((m.session b w).reaction h timeout).outcome = .ok outcome := by
  cases hb : m.backend with
  | none =>
    -- Without a source the call is refused.
    rw [process_of_none hb] at ho
    cases ho
  | some b =>
    refine ⟨b, rfl, ?_⟩
    cases hr : ((m.session b w).reaction h timeout).outcome with
    | ok o =>
      rw [process_of_ok hb hr] at ho
      exact ho
    | error e =>
      cases he : e.isFatal with
      | false =>
        rw [process_of_error hb hr he] at ho
        cases ho
      | true =>
        rw [process_of_fatal hb hr he] at ho
        cases ho

/-- Induction over a loop that returned: it made rounds, and then the flag was raised or a call
failed. -/
theorem slices_induction {P : Monitor β → σ → Turn σ β → Prop}
    (ended : ∀ m w, m.isRunning = true → m.shutdown = true → P m w ⟨none, m, w, [loopEnd]⟩)
    (failed : ∀ m w e, m.isRunning = true → m.shutdown = false →
      (m.process h (some m.slice) w).result = .error e → P m w (m.process h (some m.slice) w).turn)
    (round : ∀ m w t t', m.isRunning = true → Performs h m w .round t →
      P t.monitor t.world t' → P m w (t'.after t.effects))
    (fuel : Nat) {m : Monitor β} {w : σ} {s : Step σ β Unit} (hm : m.isRunning = true)
    (hs : slices h fuel m w = some s) : P m w s.turn := by
  -- On the fuel: the rounds after the first one have one unit less.
  induction fuel generalizing m w s with
  | zero => cases hs
  | succ fuel ih =>
    cases hf : m.shutdown with
    | true =>
      rw [slices_of_shutdown w fuel hf, Option.some.injEq] at hs
      rw [← hs]
      exact ended m w hm hf
    | false =>
      cases ho : (m.process h (some m.slice) w).result with
      | error e =>
        rw [slices_of_error fuel hm hf ho, Option.some.injEq] at hs
        have hturn : s.turn = (m.process h (some m.slice) w).turn := by
          rw [← hs, Step.turn, Step.turn, ho]
          rfl
        rw [hturn]
        exact failed m w e hm hf ho
      | ok outcome =>
        obtain ⟨b, hb, hr⟩ := exists_backend_of_ok ho
        rw [slices_of_ok fuel hm hf hb hr, Option.map_eq_some_iff] at hs
        obtain ⟨s', hs', rfl⟩ := hs
        -- What this round adds in front of the later ones is what `Performs.round` says of it.
        have hround := Performs.round hm hf ho
        rw [process_of_ok hb hr] at hround
        exact round m w _ s'.turn hm hround (ih hm hs')

end Loop

end Monitor

end AddressWatch
