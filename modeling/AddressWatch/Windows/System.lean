/-
  AddressWatch.Windows.System

  The calls of the Windows interface that the program makes, answered from a plan: starting and
  ending the socket library, the table of adapters, and notifications about interfaces, of which
  one registration is served at a time. Every call is recorded.
-/

import AddressWatch.SocketAddress
import AddressWatch.SystemError

namespace AddressWatch.Windows

/-- An address of an adapter as the system gives it; the address may be missing. -/
structure UnicastAddress where
  address : Option SocketAddress
  prefixLength : UInt8
  deriving DecidableEq, Repr

/-- An adapter as the system gives it. -/
structure Adapter where
  index : UInt32
  ipv6Index : UInt32
  /-- The name, which ends at its first zero. -/
  name : List UInt16
  operationalStatus : Int
  type : UInt32
  addresses : List UnicastAddress
  deriving DecidableEq, Repr

/-- A notification that something happened to an interface. -/
structure Notification where
  index : UInt32
  type : Int
  deriving DecidableEq, Repr

/-- A buffer that an answer is written to. What an answer leaves in it is given as adapters, so that
only its length is kept. -/
structure Buffer where
  length : Nat
  deriving DecidableEq, Repr

/-- The buffer after its length was changed. -/
def Buffer.resize (buffer : Buffer) (length : Nat) : Buffer := { buffer with length }

/-- A call of the system. -/
inductive Call where
  | startup (version : Nat)
  | cleanup
  /-- `size` is the size that the system is told, and `buffer` where it writes to. -/
  | adapters (family flags : Nat) (buffer : Buffer) (size : UInt32)
  | register (family : Nat)
  /-- `registered` says whether there was a registration to cancel. -/
  | cancel (registered : Bool)
  deriving DecidableEq, Repr

/-- A call as it is shown. -/
def Call.text : Call → String
  | .startup version => "WSAStartup " ++ Text.decimal version
  | .cleanup => "WSACleanup"
  | .adapters family flags _ size =>
    String.join
      [ "GetAdaptersAddresses family=", Text.decimal family, " flags=", Text.decimal flags, " size=",
        Text.decimal size.toNat ]
  | .register family =>
    "NotifyIpInterfaceChange family=" ++ Text.decimal family ++ " initial=false"
  | .cancel registered =>
    "CancelMibChangeNotify2 registered=" ++ (if registered then "true" else "false")

/-- The plan of the answers, and the state of the system. A list of codes has one entry for each
call; a call succeeds when there are no more. -/
structure System where
  adapters : List Adapter := []
  startupCodes : List UInt32 := []
  tableCodes : List UInt32 := []
  registerCodes : List UInt32 := []
  /-- The size that the table is said to need. -/
  needed : UInt32 := 32768
  /-- What the system says of a result code. -/
  words : Int32 → String := fun _ => ""
  /-- The number of references to the socket library. -/
  holders : Nat := 0
  /-- The queue that notifications go to, if one is registered. -/
  registered : Option Nat := none
  /-- The queues that were made, and the notifications in them. -/
  queues : List (Nat × List Notification) := []
  /-- The number of the next queue. -/
  nextQueue : Nat := 0
  /-- The calls so far, the last one first. -/
  calls : List Call := []

namespace System

/-- The code of success. -/
def noError : UInt32 := 0

/-- The code for a size that is too small. -/
def bufferOverflow : UInt32 := 111

/-- The code for a table without entries. -/
def noData : UInt32 := 232

/-- The size of one adapter in the table. -/
def adapterSize : UInt32 := 48

/-- The system with one more call on record. -/
def record (s : System) (call : Call) : System := { s with calls := call :: s.calls }

/-- Starts the socket library. -/
def startup (version : Nat) (s : System) : UInt32 × System :=
  (s.startupCodes.head?.getD noError,
    { s.record (.startup version) with startupCodes := s.startupCodes.tail })

/-- Ends the socket library. -/
def cleanup (s : System) : System := s.record .cleanup

/-- The failure that a code stands for. -/
def failure (s : System) (code : UInt32) : WindowsError :=
  ⟨WindowsError.hresultOf code, s.words (WindowsError.hresultOf code)⟩

/-- Asks for the adapters with a buffer that is said to have room for `size` bytes: the code and the
size afterwards. The adapters themselves are there when the code is that of success. -/
def adapterTable (family flags : Nat) (buffer : Buffer) (size : UInt32) (s : System) :
    UInt32 × UInt32 × System :=
  let code := s.tableCodes.head?.getD noError
  let s := { s.record (.adapters family flags buffer size) with tableCodes := s.tableCodes.tail }
  if code = bufferOverflow then (code, s.needed, s)
  else if code ≠ noError then (code, size, s)
  else if s.adapters.isEmpty then (noData, size, s)
  else if size < adapterSize then (bufferOverflow, s.needed, s)
  else (noError, size, s)

/-- Registers for notifications with a new queue: the code, and the queue if it succeeds. An earlier
registration is no longer served. -/
def register (family : Nat) (s : System) : Except UInt32 Nat × System :=
  let code := s.registerCodes.head?.getD noError
  let s := { s.record (.register family) with registerCodes := s.registerCodes.tail }
  if code = noError then
    (.ok s.nextQueue,
      { s with
        registered := some s.nextQueue
        queues := (s.nextQueue, []) :: s.queues
        nextQueue := s.nextQueue + 1 })
  else (.error code, s)

/-- Cancels the registration that is served. -/
def cancel (s : System) : System :=
  { s.record (.cancel s.registered.isSome) with registered := none }

/-- The notifications in a queue. -/
def queue (s : System) (number : Nat) : List Notification := (s.queues.lookup number).getD []

/-- The system with other notifications in a queue that was made. -/
def setQueue (s : System) (number : Nat) (notifications : List Notification) : System :=
  { s with
    queues := s.queues.map fun q => if q.1 = number then (number, notifications) else q }

/-- Posts a notification to the queue that is registered, if one is. -/
def post (s : System) (n : Notification) : System :=
  match s.registered with
  | some number => s.setQueue number (s.queue number ++ [n])
  | none => s

end System

end AddressWatch.Windows
