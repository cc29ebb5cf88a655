/-
  AddressWatch.Monitor

  The change monitor: its life from created over running to stopped, the delivery of events, and
  the loop that waits in slices until it is shut down. Opening a source of notifications makes it
  run; stopping it, a fatal error of the source, or dropping it gives the source back. Every
  operation returns its result and the effects it had, in order; every failing operation, and no
  other, overwrites the last error.
-/

import AddressWatch.Monitor.Host

namespace AddressWatch

/-- What a monitor does that can be seen from outside. -/
inductive Effect where
  /-- The source was asked to open. -/
  | opened (succeeded : Bool)
  /-- The source was asked for notifications. -/
  | asked (timeout : Wait)
  /-- The receiver was given an event. -/
  | delivered (event : ChangeEvent)
  /-- Something was done on the side. -/
  | performed (a : Action)
  /-- The loop paused after an interrupted wait. -/
  | paused (length : Duration)
  /-- The source was given back. -/
  | released
  deriving DecidableEq

namespace Effect

/-- The events that were delivered, in order. -/
def events (effects : List Effect) : List ChangeEvent :=
  effects.filterMap fun e => match e with | .delivered event => some event | _ => none

/-- The timeouts with which the source was asked, in order. -/
def timeouts (effects : List Effect) : List Wait :=
  effects.filterMap fun e => match e with | .asked timeout => some timeout | _ => none

/-- The log lines that were written, in order. -/
def logLines (effects : List Effect) : List LogLine :=
  effects.filterMap fun e => match e with | .performed (.log line) => some line | _ => none

/-- The lines that were printed, in order. -/
def printed (effects : List Effect) : List String :=
  effects.filterMap fun e => match e with | .performed (.print line) => some line | _ => none

/-- How often the source was asked to open. -/
def openings (effects : List Effect) : Nat :=
  effects.countP fun e => match e with | .opened _ => true | _ => false

/-- How often the source opened. -/
def opens (effects : List Effect) : Nat := effects.count (.opened true)

/-- How often an opened source was given back. -/
def releases (effects : List Effect) : Nat := effects.count .released

/-- A log line of the monitor as an effect. -/
def logged (level : Level) (text : String) : Effect := .performed (.log ⟨level, .monitor, text⟩)

end Effect

/-- A monitor whose opened source is a `β`. -/
structure Monitor (β : Type) where
  state : MonitorState
  backend : Option β
  lastError : Option LastError
  /-- Whether the shutdown flag is raised. -/
  shutdown : Bool
  /-- How long one wait of the loop may take. -/
  slice : Duration
  /-- How long the loop pauses after an interrupted wait. -/
  backoff : Duration

namespace Monitor

/-- The length of a wait of the loop if nothing else is asked. -/
def defaultSlice : Duration := .ofMillis 1000

/-- The length of a pause of the loop if nothing else is asked. -/
def defaultBackoff : Duration := .ofMillis 500

/-- A monitor that has not been started. -/
def new (β : Type) : Monitor β where
  state := .created
  backend := none
  lastError := none
  shutdown := false
  slice := defaultSlice
  backoff := defaultBackoff

/-- A monitor for the given receiver; without one there is no monitor. -/
def forReceiver {β ρ : Type} : Option ρ → Except MonitorError (Monitor β)
  | some _ => .ok (new β)
  | none => .error .missingCallback

/-- What an operation of a monitor comes to. -/
structure Step (σ β α : Type) where
  result : Except MonitorError α
  monitor : Monitor β
  world : σ
  effects : List Effect

/-- The step with effects before its own. -/
def Step.after {σ β α : Type} (earlier : List Effect) (s : Step σ β α) : Step σ β α :=
  { s with effects := earlier ++ s.effects }

variable {σ β : Type}

/-- Whether the monitor is running. -/
def isRunning (m : Monitor β) : Bool := m.state == .running

/-- The code of the last error, zero without one. -/
def lastErrorCode (m : Monitor β) : Int32 := (m.lastError.map LastError.code).getD 0

/-- The message of the last error, empty without one. -/
def lastErrorMessage (m : Monitor β) : String := (m.lastError.map LastError.message).getD ""

/-- The monitor with another length of waits. -/
def withSlice (m : Monitor β) (slice : Duration) : Monitor β := { m with slice }

/-- The monitor with another length of pauses. -/
def withBackoff (m : Monitor β) (backoff : Duration) : Monitor β := { m with backoff }

/-- The monitor with another shutdown flag. -/
def withShutdown (m : Monitor β) (raised : Bool) : Monitor β := { m with shutdown := raised }

/-- The monitor with its shutdown flag raised. -/
def trigger (m : Monitor β) : Monitor β := { m with shutdown := true }

/-- A failed operation: its error is remembered. -/
def fail {α : Type} (m : Monitor β) (e : MonitorError) (w : σ) (effects : List Effect) :
    Step σ β α :=
  ⟨.error e, { m with lastError := some (.ofError e) }, w, effects⟩

/-! ## Starting and stopping -/

/-- Opens the source; a monitor that was started before is refused. -/
def start (h : Host σ β) (m : Monitor β) (w : σ) : Step σ β Unit :=
  match m.state with
  | .created =>
    let o := h.openBackend w
    let log := o.log.map fun line => Effect.performed (.log line)
    match o.backend with
    | .ok b =>
      ⟨.ok (), { m with backend := some b, state := .running }, o.world,
        log ++ [.opened true, .logged .debug "Monitor started"]⟩
    | .error e =>
      m.fail e o.world
        (log ++ [.opened false, .logged .warn ("Failed to start monitor: " ++ e.message)])
  | state => m.fail (.invalidState "start" state) w []

/-- Gives the source back, if one is open. -/
def release (h : Host σ β) (m : Monitor β) (w : σ) : Monitor β × σ × List Effect :=
  match m.backend with
  | some b => ({ m with backend := none, state := .stopped }, h.release b w, [.released])
  | none => ({ m with state := .stopped }, w, [])

/-- Stops a running monitor. -/
def stop (h : Host σ β) (m : Monitor β) (w : σ) : Step σ β Unit :=
  if m.isRunning then
    let (m', w', effects) := m.release h w
    ⟨.ok (), m', w', effects ++ [.logged .debug "Monitor stopped"]⟩
  else m.fail .notRunning w []

/-- The end of a monitor: a running one gives its source back. -/
def drop (h : Host σ β) (m : Monitor β) (w : σ) : σ × List Effect :=
  if m.isRunning then
    let (_, w', effects) := m.release h w
    (w', effects ++ [.logged .debug "Monitor released on drop"])
  else (w, [])

/-! ## Processing -/

/-- Whether one of the actions raises the shutdown flag. -/
def raises (actions : List Action) : Bool := actions.contains .shutdown

/-- What follows from the occurrences of one call of the source: the shutdown flag, the world and
the effects afterwards. -/
def relay (h : Host σ β) (shutdown : Bool) (w : σ) : List Occurrence → Bool × σ × List Effect
  | [] => (shutdown, w, [])
  | .action a :: rest =>
    let (s, w', effects) := relay h (shutdown || raises [a]) w rest
    (s, w', .performed a :: effects)
  | .signal :: rest =>
    let (s, w', effects) := relay h (shutdown || raises h.signalled) w rest
    (s, w', h.signalled.map .performed ++ effects)
  | .change event :: rest =>
    let (actions, w₁) := h.receive event w
    let (s, w', effects) := relay h (shutdown || raises actions) w₁ rest
    (s, w', .logged .debug ("Address change: " ++ event.text) :: .delivered event ::
      actions.map .performed ++ effects)

/-- Waits for notifications once and delivers their events; a fatal error stops the monitor. -/
def process (h : Host σ β) (timeout : Wait) (m : Monitor β) (w : σ) : Step σ β Outcome :=
  match m.backend with
  | none => m.fail .notRunning w []
  | some b =>
    let r := h.process b timeout w
    let (shutdown, w₁, effects) := relay h m.shutdown r.world r.occurrences
    let effects := .asked timeout :: effects
    let m₁ := { m with backend := some r.backend, shutdown }
    match r.outcome with
    | .ok outcome => ⟨.ok outcome, m₁, w₁, effects⟩
    | .error e =>
      if e.isFatal then
        let (m₂, w₂, freed) := m₁.release h w₁
        m₂.fail e w₂
          (effects ++ .logged .error ("Monitor backend failed, stopping: " ++ e.message) :: freed)
      else m₁.fail e w₁ effects

/-- The pause after an interrupted wait. -/
def pauseAfter (m : Monitor β) : Outcome → List Effect
  | .interrupted =>
    [.logged .debug ("Wait interrupted, retrying in " ++ m.backoff.text), .paused m.backoff]
  | _ => []

/-- Waits in slices until the monitor stops, the flag is raised or an error occurs; `none` if that
takes `fuel` rounds or more. -/
def slices (h : Host σ β) : Nat → Monitor β → σ → Option (Step σ β Unit)
  | 0, _, _ => none
  | fuel + 1, m, w =>
    if m.isRunning && !m.shutdown then
      let s := m.process h (some m.slice) w
      match s.result with
      | .ok outcome =>
        (slices h fuel s.monitor s.world).map (·.after (s.effects ++ s.monitor.pauseAfter outcome))
      | .error e => some { s with result := .error e }
    else some ⟨.ok (), m, w, [.logged .debug "Blocking loop ended"]⟩

/-- The blocking loop of a running monitor; `none` if it takes `fuel` rounds or more. -/
def processBlocking (h : Host σ β) (fuel : Nat) (m : Monitor β) (w : σ) :
    Option (Step σ β Unit) :=
  if m.isRunning then slices h fuel m w else some (m.fail .notRunning w [])

/-! ## Showing -/

/-- The monitor as it is shown. -/
def shown (m : Monitor β) : String :=
  String.join
    [ "Monitor \x7b state: ", m.state.shown, ", last_error: ",
      match m.lastError with
      | none => "None"
      | some e => "Some(" ++ e.shown ++ ")",
      ", slice: ", m.slice.text, ", interrupt_backoff: ", m.backoff.text, ", .. \x7d" ]

end Monitor

end AddressWatch
