/-
  AddressWatch.Linux.Subscription

  The subscription to the kernel's notifications about addresses: a socket that answers without
  waiting and a buffer for one datagram. A call waits once and reads at most one datagram, so that
  a steady stream of notifications cannot hold the caller past its timeout.
-/

import AddressWatch.Linux.Kernel
import AddressWatch.Monitor.Host
import AddressWatch.Route.Datagram
import AddressWatch.Unix.InterfaceEntry

namespace AddressWatch.Linux

/-- An open subscription with the bytes that were read last. -/
structure Subscription where
  buffer : List UInt8
  deriving DecidableEq, Repr

namespace Subscription

/-- The size of the buffer. -/
def capacity : Nat := 16384

/-- The group of IPv4 addresses. -/
def ipv4Group : Nat := 0x10

/-- The group of IPv6 addresses. -/
def ipv6Group : Nat := 0x100

/-- The subscription as it is shown; the number of its socket means nothing. -/
def shown (_ : Subscription) : String := "LinuxBackend \x7b fd: N, .. \x7d"

/-- A failed system call as an error of the monitor. -/
def failure (context : String) (errno : Int32) : MonitorError := .io context (.errno errno)

/-- Opens a socket and subscribes it; a socket that cannot be subscribed is closed again. -/
def «open» (k : Kernel) : Opening Kernel Subscription :=
  match k.socket with
  | (.error errno, k) => ⟨[], .error (failure "socket" errno), k⟩
  | (.ok (), k) =>
    match k.bind (ipv4Group ||| ipv6Group) with
    | (.error errno, k) => ⟨[], .error (failure "bind" errno), k.close⟩
    | (.ok (), k) =>
      match k.setNonBlocking with
      | (.error errno, k) => ⟨[], .error (failure "set_non_blocking" errno), k.close⟩
      | (.ok (), k) =>
        ⟨[⟨.debug, .subscription, "Subscribed to rtnetlink address notifications"⟩], .ok ⟨[]⟩, k⟩

/-- What follows from one finding of a datagram. -/
def occurrence (f : Route.Finding) (k : Kernel) : Occurrence × Kernel :=
  match f with
  | .notice n =>
    match k.interfaceName? n.index with
    | (some name, k) => (.change ⟨Unix.nameText name, n.address, n.kind⟩, k)
    | (none, k) =>
      (.action (.log ⟨.warn, .subscription,
        "Interface index " ++ Text.decimal n.index.toNat ++ " no longer exists, " ++ n.address.text
          ++ " skipped"⟩), k)
  | .withoutAddress =>
    (.action (.log ⟨.debug, .datagram, "Address message without usable address, skipped"⟩), k)
  | .unreadable offset =>
    (.action (.log ⟨.warn, .datagram,
      "Undecodable netlink message at offset " ++ Text.decimal offset⟩), k)

/-- What follows from the findings of a datagram, in order. -/
def occurrences : List Route.Finding → Kernel → List Occurrence × Kernel
  | [], k => ([], k)
  | f :: rest, k =>
    let (o, k) := occurrence f k
    let (os, k) := occurrences rest k
    (o :: os, k)

/-- The number of changes among the occurrences. -/
def changes (os : List Occurrence) : Nat :=
  os.countP fun o => match o with | .change _ => true | _ => false

/-- What a read that failed comes to. -/
def readFailure (errno : Int32) : List Occurrence × Except MonitorError Outcome :=
  if errno = SystemError.wouldBlock then ([], .ok .timedOut)
  else if errno = SystemError.interrupted then ([], .ok .interrupted)
  else if errno = SystemError.noBufferSpace then
    ([.action (.log
        ⟨.warn, .subscription, "Netlink receive queue overflowed, notifications were lost"⟩)],
      .ok (.processed 0))
  else ([], .error (failure "recv" errno))

/-- Reads one datagram into the cleared buffer and turns it into events. -/
def receive [Route.OtherMessages] (s : Subscription) (k : Kernel) : Reaction Kernel Subscription :=
  let s : Subscription := { s with buffer := [] }
  match k.recv (capacity - s.buffer.length) with
  | (.error errno, k) =>
    let (os, outcome) := readFailure errno
    ⟨os, outcome, s, k⟩
  | (.ok bytes, k) =>
    if bytes.isEmpty then ⟨[], .ok .timedOut, s, k⟩
    else
      let s : Subscription := { s with buffer := s.buffer ++ bytes }
      let reading := Route.readDatagram s.buffer
      let (os, k) := occurrences reading.findings k
      match reading.error with
      | some errno => ⟨os, .error (.protocol errno), s, k⟩
      | none => ⟨os, .ok (.processed (changes os)), s, k⟩

/-- Waits for a datagram and reads it. -/
def process [Route.OtherMessages] (s : Subscription) (timeout : Wait) (k : Kernel) :
    Reaction Kernel Subscription :=
  match k.poll timeout.argument with
  | (.failure errno, k) =>
    if errno = SystemError.interrupted then ⟨[], .ok .interrupted, s, k⟩
    else ⟨[], .error (failure "poll" errno), s, k⟩
  | (.timeout, k) => ⟨[], .ok .timedOut, s, k⟩
  | (.signal, k) => ⟨[.signal], .ok .timedOut, s, k⟩
  | (.ready _, k) => s.receive k

/-- The subscription as a source of notifications, with a receiver of changes that has a state of
its own, and with what the program does when it is asked to end. -/
def host [Route.OtherMessages] {κ : Type} (receiver : ChangeEvent → κ → List Action × κ)
    (signalled : List Action) : Host (Kernel × κ) Subscription where
  openBackend := fun (k, r) =>
    let o := Subscription.open k
    ⟨o.log, o.backend, (o.world, r)⟩
  process := fun s timeout (k, r) =>
    let c := s.process timeout k
    ⟨c.occurrences, c.outcome, c.backend, (c.world, r)⟩
  release := fun _ (k, r) => (k.close, r)
  receive := fun event (k, r) =>
    let (actions, r) := receiver event r
    (actions, (k, r))
  signalled := signalled

end Subscription

/-- A number of rounds that suffices for every loop over a subscription: each wait uses up an
entry of the plan, and the loop ends when none is left or after a signal. -/
def Kernel.rounds (k : Kernel) : Nat := k.polls.length + 2

end AddressWatch.Linux
