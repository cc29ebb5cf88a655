/-
  AddressWatch.Monitor.Script

  A source of notifications that follows a script, and a receiver that raises the shutdown flag at
  a chosen event. Where the script has ended, the source raises the flag itself, so that no loop
  over it goes on for ever.
-/

import AddressWatch.Monitor

namespace AddressWatch

/-- What the scripted source does when it is asked once. -/
structure ScriptStep where
  /-- Whether the shutdown flag is raised first. -/
  trigger : Bool
  events : List ChangeEvent
  outcome : Except MonitorError Outcome

/-- A receiver that counts events and raises the shutdown flag at one of them. -/
structure EventCounter where
  received : Nat
  /-- The number of the event at which the flag is raised. -/
  triggerAt : Option Nat
  deriving DecidableEq, Repr

/-- The receiver counts an event. -/
def EventCounter.receive (_ : ChangeEvent) (c : EventCounter) : List Action × EventCounter :=
  let received := c.received + 1
  (if c.triggerAt = some received then [.shutdown] else [], { c with received })

/-- What is left of a script. -/
structure Script where
  /-- What opening comes to, one entry for each time; it succeeds when there are no more. -/
  openings : List (Option MonitorError)
  steps : List ScriptStep

namespace Script

/-- Opening follows the script. -/
def openBackend (s : Script) : Opening Script Unit :=
  let outcome : Except MonitorError Unit :=
    match s.openings.head? with
    | some (some e) => .error e
    | _ => .ok ()
  ⟨[], outcome, { s with openings := s.openings.tail }⟩

/-- Asking once takes the next step of the script. -/
def process (_ : Unit) (_ : Wait) (s : Script) : Reaction Script Unit :=
  match s.steps with
  | [] => ⟨[.action .shutdown], .ok .timedOut, (), s⟩
  | step :: rest =>
    ⟨(if step.trigger then [.action .shutdown] else []) ++ step.events.map .change, step.outcome, (),
      { s with steps := rest }⟩

/-- The scripted source with a receiver that counts. -/
def host : Host (Script × EventCounter) Unit where
  openBackend := fun (s, c) =>
    let o := s.openBackend
    ⟨o.log, o.backend, (o.world, c)⟩
  process := fun b timeout (s, c) =>
    let r := process b timeout s
    ⟨r.occurrences, r.outcome, (), (r.world, c)⟩
  release := fun _ w => w
  receive := fun event (s, c) =>
    let (actions, c) := c.receive event
    (actions, (s, c))
  signalled := []

/-- A number of rounds that suffices for every loop over the script. -/
def rounds (s : Script) : Nat := s.steps.length + 2

end Script

/-- The source of a platform that has no notifications: it never opens. -/
def unsupportedHost : Host Unit Empty where
  openBackend := fun w => ⟨[], .error .unsupported, w⟩
  process := fun b => nomatch b
  release := fun b => nomatch b
  receive := fun _ w => ([], w)
  signalled := []

end AddressWatch
