/-
  AddressWatch.Monitor.Host

  What a monitor works with: a source of notifications that can be opened, asked and released, and
  a receiver of the changes. Both may have a state of their own; together these are the world, a
  value that every call takes and returns. What a call does besides is listed in the order in
  which it happens.
-/

import AddressWatch.Monitor.Error
import AddressWatch.Monitor.Event
import AddressWatch.Duration
import AddressWatch.Log

namespace AddressWatch

/-- What a wait for notifications comes to. -/
inductive Outcome where
  /-- Notifications arrived, and this many events came of them. -/
  | processed (count : Nat)
  /-- The wait ended without notifications. -/
  | timedOut
  /-- A signal interrupted the wait. -/
  | interrupted
  deriving DecidableEq, Repr

/-- What a source, a receiver or the program around them does on the side. -/
inductive Action where
  /-- A line goes to standard output. -/
  | print (line : String)
  | log (line : LogLine)
  /-- The monitor's shutdown flag is raised. -/
  | shutdown
  deriving DecidableEq

/-- What happens while a source waits for notifications and reads them. -/
inductive Occurrence where
  /-- A change is handed to the receiver. -/
  | change (event : ChangeEvent)
  /-- The process is asked to end. -/
  | signal
  | action (a : Action)
  deriving DecidableEq

/-- What opening a source of notifications comes to. -/
structure Opening (σ β : Type) where
  log : List LogLine
  backend : Except MonitorError β
  world : σ

/-- What one call of an opened source comes to. -/
structure Reaction (σ β : Type) where
  occurrences : List Occurrence
  outcome : Except MonitorError Outcome
  backend : β
  world : σ

/-- A source of notifications, whose opened form is `β`, and a receiver of changes, in a world
`σ`. -/
structure Host (σ β : Type) where
  /-- Opens the source. -/
  openBackend : σ → Opening σ β
  /-- Waits for notifications and reads them. -/
  process : β → Wait → σ → Reaction σ β
  /-- Gives the opened source back. -/
  release : β → σ → σ
  /-- What the receiver does with a change. -/
  receive : ChangeEvent → σ → List Action × σ
  /-- What the program does when it is asked to end. -/
  signalled : List Action

end AddressWatch
