/-
  AddressWatch.Supervision

  The two sides of a watch: a worker that opens the source of notifications and goes through its
  rounds, and a supervisor that waits for the worker or for the request to end, whichever it sees
  first. The sides take their steps in any order; the shutdown flag is all that goes from the
  supervisor to the worker, and the worker looks at it between two rounds only.
-/

import AddressWatch.Program

namespace AddressWatch

/-- How far the worker has come. -/
inductive Worker where
  | starting
  /-- It is between two rounds. -/
  | deciding
  /-- It has asked the source and waits for the answer. -/
  | asking
  | ended (result : Except MonitorError Unit)
  | brokenDown (cause : String)

namespace Worker

/-- What the supervisor gets from a worker that is over. -/
def result? : Worker → Option (Except RunError Unit)
  | .ended result => some (result.mapError .monitor)
  | .brokenDown cause => some (.error (.worker cause))
  | .starting | .deciding | .asking => none

/-- A step of the worker. -/
inductive Move where
  /-- It has tried to open the source. -/
  | opened (result : Except MonitorError Unit)
  /-- It has found the flag down and asks the source. -/
  | asks
  /-- The source has answered, and the events were delivered. -/
  | answered (outcome : Except MonitorError Outcome)
  /-- It has found the flag raised. -/
  | sees
  | breaksDown (cause : String)

/-- The worker after a step, if the step is possible; `raised` says whether the flag is. -/
def move (raised : Bool) : Worker → Move → Option Worker
  | .starting, .opened (.ok ()) => some .deciding
  | .starting, .opened (.error e) => some (.ended (.error e))
  | .deciding, .asks => if raised then none else some .asking
  | .deciding, .sees => if raised then some (.ended (.ok ())) else none
  | .asking, .answered (.ok _) => some .deciding
  | .asking, .answered (.error e) => some (.ended (.error e))
  | .starting, .breaksDown cause | .deciding, .breaksDown cause | .asking, .breaksDown cause =>
    some (.brokenDown cause)
  | _, _ => none

end Worker

/-- What the wait for a request to end has come to. -/
inductive SignalWait where
  | waiting
  | arrived
  /-- No request can ever be noticed. -/
  | failed (cause : SystemError)

/-- What the supervisor does. -/
inductive Supervisor where
  /-- It waits for the worker and for the request to end. -/
  | selecting
  /-- It has raised the flag and waits for the worker. -/
  | joining
  | returned (result : Except RunError Unit)

/-- A watch with both its sides. -/
structure Supervision where
  worker : Worker
  signal : SignalWait
  supervisor : Supervisor
  /-- Whether the shutdown flag is raised. -/
  shutdown : Bool

namespace Supervision

/-- The beginning of a watch. -/
def start : Supervision := ⟨.starting, .waiting, .selecting, false⟩

/-- A step of one of the sides, or of the world around them. -/
inductive Move where
  | work (step : Worker.Move)
  | signal
  | installFailed (cause : SystemError)
  /-- The supervisor takes the worker's result. -/
  | takeResult
  /-- The supervisor takes what the wait for a request has come to. -/
  | takeSignal

/-- The watch after a move, if the move is possible. -/
def move (s : Supervision) : Move → Option Supervision
  | .work step => (s.worker.move s.shutdown step).map fun worker => { s with worker }
  | .signal =>
    match s.signal with
    | .waiting => some { s with signal := .arrived }
    | _ => none
  | .installFailed cause =>
    match s.signal with
    | .waiting => some { s with signal := .failed cause }
    | _ => none
  | .takeResult =>
    match s.supervisor with
    | .selecting | .joining =>
      s.worker.result?.map fun result => { s with supervisor := .returned result }
    | _ => none
  | .takeSignal =>
    match s.supervisor, s.signal with
    | .selecting, .arrived => some { s with supervisor := .joining, shutdown := true }
    | .selecting, .failed cause =>
      some { s with supervisor := .returned (.error (.signalHandler cause)) }
    | _, _ => none

/-- The watch after several moves, if each of them is possible. -/
def moves (s : Supervision) (ms : List Move) : Option Supervision := ms.foldlM move s

end Supervision

end AddressWatch
