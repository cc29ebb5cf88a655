/-
  AddressWatch.Windows.Registration

  The registration for notifications about interfaces as a source of changes. Notifications are
  queued as they come; a call takes all of them, each interface and type once, and gives the
  addresses of the adapters that they are about.
-/

import AddressWatch.Monitor.Host
import AddressWatch.Windows.AdapterTable

namespace AddressWatch.Windows

/-- An open registration: the queue of its notifications. -/
structure Registration where
  queue : Nat
  deriving DecidableEq, Repr

namespace Registration

/-- The registration as it is shown. -/
def shown (_ : Registration) : String := "WindowsBackend \x7b .. \x7d"

/-- Registers for notifications, with a reference to the socket library, which is given back if that
fails. -/
def «open» (s : System) : Opening System Registration :=
  match s.acquire with
  | (.error e, s) => ⟨[], .error (.windows e), s⟩
  | (.ok (), s) =>
    match s.register anyFamily with
    | (.error code, s) => ⟨[], .error (.windows (s.failure code)), s.release⟩
    | (.ok queue, s) => ⟨[], .ok ⟨queue⟩, s⟩

/-- Cancels the registration, and gives the reference to the socket library back after that. -/
def close (_ : Registration) (s : System) : System := s.cancel.release

/-- The notifications with only the first of equal ones. -/
def firsts (seen : List Notification) : List Notification → List Notification
  | [] => []
  | n :: rest => if n ∈ seen then firsts seen rest else n :: firsts (n :: seen) rest

/-- The kind of change that a type of notification stands for. -/
def changeKind (type : Int) : ChangeKind :=
  if type = 1 then .added else if type = 2 then .removed else .changed

/-- The events that a notification stands for. -/
def events (adapters : List AdapterEntry) (n : Notification) : List ChangeEvent :=
  (adapters.filter (·.hasIndex n.index)).flatMap fun a =>
    a.addresses.map fun (address, _) => ⟨a.name, address, changeKind n.type⟩

/-- A failed fetch as an error of the monitor. -/
def ofFetchError : FetchError → MonitorError
  | .windows e => .windows e
  | .io context source => .io context source
  | .platform message => .io "GetAdaptersAddresses" (.other message)
  | .unsupported => .unsupported

/-- Takes what is queued and gives the events that follow. The wait ends without notifications when
nothing is queued. -/
def process (r : Registration) (_ : Wait) (s : System) : Reaction System Registration :=
  match firsts [] (s.queue r.queue) with
  | [] => ⟨[], .ok .timedOut, r, s⟩
  | notifications =>
    match (s.setQueue r.queue []).fetchAdapters with
    | (.error e, s) => ⟨[], .error (ofFetchError e), r, s⟩
    | (.ok adapters, s) =>
      let happened := notifications.flatMap (events adapters)
      ⟨happened.map .change, .ok (.processed happened.length), r, s⟩

/-- The registration as a source of notifications, with a receiver of changes that has a state of
its own. -/
def host {κ : Type} (receiver : ChangeEvent → κ → List Action × κ) :
    Host (System × κ) Registration where
  openBackend := fun (s, k) =>
    let o := Registration.open s
    ⟨o.log, o.backend, (o.world, k)⟩
  process := fun r timeout (s, k) =>
    let c := r.process timeout s
    ⟨c.occurrences, c.outcome, c.backend, (c.world, k)⟩
  release := fun r (s, k) => (r.close s, k)
  receive := fun event (s, k) =>
    let (actions, k) := receiver event k
    (actions, (s, k))
  signalled := []

end Registration

end AddressWatch.Windows
