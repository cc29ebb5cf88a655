/-
  AddressWatch.Linux.Kernel

  The system calls that the program makes, answered from a plan: the list of interfaces, what
  opening a socket, waiting on it and reading from it come to, and which interface has which name.
  Every call is recorded.
-/

import AddressWatch.Duration
import AddressWatch.Unix.InterfaceEntry

namespace AddressWatch.Linux

/-- The steps of opening a notification socket. -/
inductive OpenStep where
  | socket
  | bind
  | nonBlocking
  deriving DecidableEq, Repr

/-- At which step opening a socket fails, and with which error number. -/
structure OpenFailure where
  step : OpenStep
  errno : Int32
  deriving DecidableEq, Repr

/-- What one wait on a socket comes to. -/
inductive PollAnswer where
  /-- Nothing arrived in time. -/
  | timeout
  | failure (errno : Int32)
  /-- A read is possible, and comes to this. -/
  | ready (read : Except Int32 (List UInt8))
  /-- The process is asked to end; from then on nothing arrives. -/
  | signal

/-- A system call. -/
inductive SystemCall where
  | interfaceList
  | socket
  | bind (groups : Nat)
  | setNonBlocking
  | poll (milliseconds : Int)
  | recv
  | interfaceName (index : UInt32)
  | close
  deriving DecidableEq, Repr

/-- The plan of the answers, and what was called so far. -/
structure Kernel where
  /-- What asking for the list of interfaces comes to. -/
  interfaces : Except Int32 (List Unix.InterfaceEntry) := .ok []
  /-- One entry for each socket that is opened; opening succeeds when there are no more. -/
  openings : List (Option OpenFailure) := []
  /-- One entry for each wait; waiting fails when there are no more. -/
  polls : List PollAnswer := []
  /-- The names of interfaces by their indices. -/
  interfaceNames : List (UInt32 × List UInt8) := []
  /-- The failure planned for the socket that is being opened. -/
  planned : Option OpenFailure := none
  /-- What the next read comes to. -/
  arrived : Except Int32 (List UInt8) := .error SystemError.wouldBlock
  /-- Whether the process was asked to end. -/
  signalled : Bool := false
  /-- The number of sockets that are open. -/
  openSockets : Nat := 0
  /-- The groups that were subscribed to last, zero before the first time. -/
  groups : Nat := 0
  /-- The calls so far, the last one first. -/
  calls : List SystemCall := []

namespace Kernel

/-- The kernel with one more call on record. -/
def record (k : Kernel) (call : SystemCall) : Kernel := { k with calls := call :: k.calls }

/-- Asks for the list of interfaces. -/
def interfaceList (k : Kernel) : Except Int32 (List Unix.InterfaceEntry) × Kernel :=
  (k.interfaces, k.record .interfaceList)

/-- Whether the socket that is being opened fails at the given step. -/
def failsAt (k : Kernel) (step : OpenStep) : Option Int32 :=
  (k.planned.filter (·.step = step)).map (·.errno)

/-- Makes a socket. -/
def socket (k : Kernel) : Except Int32 Unit × Kernel :=
  let k := { k.record .socket with
    openings := k.openings.tail
    planned := k.openings.head?.join }
  match k.failsAt .socket with
  | some errno => (.error errno, k)
  | none => (.ok (), { k with openSockets := k.openSockets + 1 })

/-- Subscribes the socket to groups of notifications. -/
def bind (groups : Nat) (k : Kernel) : Except Int32 Unit × Kernel :=
  let k := k.record (.bind groups)
  match k.failsAt .bind with
  | some errno => (.error errno, k)
  | none => (.ok (), { k with groups })

/-- Makes the socket answer without waiting. -/
def setNonBlocking (k : Kernel) : Except Int32 Unit × Kernel :=
  let k := k.record .setNonBlocking
  match k.failsAt .nonBlocking with
  | some errno => (.error errno, k)
  | none => (.ok (), k)

/-- Closes the socket. -/
def close (k : Kernel) : Kernel := { k.record .close with openSockets := k.openSockets - 1 }

/-- The error number of a wait on something that is no socket. -/
def badDescriptor : Int32 := 9

/-- Waits on the socket for at most the given number of milliseconds. -/
def poll (milliseconds : Int) (k : Kernel) : PollAnswer × Kernel :=
  let k := k.record (.poll milliseconds)
  if k.signalled then (.timeout, k)
  else
    match k.polls with
    | [] => (.failure badDescriptor, k)
    | .ready read :: rest => (.ready read, { k with polls := rest, arrived := read })
    | .signal :: rest => (.signal, { k with polls := rest, signalled := true })
    | answer :: rest => (answer, { k with polls := rest })

/-- Reads one datagram, of which the part beyond `capacity` bytes is lost. -/
def recv (capacity : Nat) (k : Kernel) : Except Int32 (List UInt8) × Kernel :=
  (k.arrived.map (·.take capacity),
    { k.record .recv with arrived := .error SystemError.wouldBlock })

/-- The greatest length of the name of an interface. -/
def maxNameLength : Nat := 15

/-- The name of the interface with the given index, if there is one. -/
def interfaceName? (index : UInt32) (k : Kernel) : Option (List UInt8) × Kernel :=
  ((k.interfaceNames.lookup index).map (·.take maxNameLength), k.record (.interfaceName index))

end Kernel

end AddressWatch.Linux
