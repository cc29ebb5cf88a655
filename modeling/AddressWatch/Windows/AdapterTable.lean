/-
  AddressWatch.Windows.AdapterTable

  The table of adapters with their addresses. It is asked for with a buffer of a fixed size and, if
  that is too small, once more with the buffer resized to the size that the system reports. An
  adapter whose name cannot be read is left out, and so is an address that is missing or of no
  internet family.
-/

import AddressWatch.Enumeration
import AddressWatch.Text.Utf16
import AddressWatch.Windows.Winsock

namespace AddressWatch.Windows

/-- The number of the IPv6 family. -/
def inet6Family : Nat := 23

/-- The number that stands for every family. -/
def anyFamily : Nat := 0

/-- The size with which the table is asked for first. -/
def firstSize : UInt32 := 16384

/-- What is asked for: address prefixes, and no anycast addresses, multicast addresses or name
servers. -/
def tableFlags : Nat := 0x10 ||| 0x2 ||| 0x4 ||| 0x8

/-- An adapter with a name that can be read. -/
structure AdapterEntry where
  index : UInt32
  ipv6Index : UInt32
  name : String
  isUp : Bool
  isLoopback : Bool
  addresses : List (IpAddr × UInt8)
  deriving DecidableEq

namespace AdapterEntry

/-- Whether an index is one of the two of the adapter. -/
def hasIndex (e : AdapterEntry) (index : UInt32) : Bool := e.index == index || e.ipv6Index == index

/-- The records of the adapter, in the order of its addresses. -/
def records (e : AdapterEntry) : List AddressRecord :=
  e.addresses.map fun (address, prefixLength) =>
    .clamped e.name address prefixLength e.isUp e.isLoopback

end AdapterEntry

/-- The address with its prefix length, if it is there and of an internet family. -/
def UnicastAddress.entry? (a : UnicastAddress) : Option (IpAddr × UInt8) :=
  (a.address.bind (SocketAddress.ip? inet6Family)).map fun ip => (ip, a.prefixLength)

/-- The operational status of an adapter that is up. -/
def upStatus : Int := 1

/-- The type of a loopback adapter. -/
def loopbackType : UInt32 := 24

/-- The adapter with its name and its addresses, if the name can be read. -/
def Adapter.entry? (a : Adapter) : Option AdapterEntry :=
  (Text.decodeUtf16? (a.name.takeWhile (· ≠ 0))).map fun name =>
    { index := a.index
      ipv6Index := a.ipv6Index
      name := String.ofList name
      isUp := a.operationalStatus = upStatus
      isLoopback := a.type = loopbackType
      addresses := a.addresses.filterMap UnicastAddress.entry? }

namespace System

/-- Asks for the table, a second time with the buffer resized if the first size was too small: the
last code. -/
def askTable (s : System) : UInt32 × System :=
  let buffer : Buffer := ⟨firstSize.toNat⟩
  let (code, size, s) := s.adapterTable anyFamily tableFlags buffer firstSize
  if code = bufferOverflow then
    let buffer := buffer.resize size.toNat
    let (code, _, s) := s.adapterTable anyFamily tableFlags buffer size
    (code, s)
  else (code, s)

/-- The adapters, with a reference to the socket library held meanwhile. -/
def fetchAdapters (s : System) : Except FetchError (List AdapterEntry) × System :=
  match s.acquire with
  | (.error e, s) => (.error (.windows e), s)
  | (.ok (), s) =>
    let (code, s) := s.askTable
    if code = noError then (.ok (s.adapters.filterMap Adapter.entry?), s.release)
    else (.error (.windows (s.failure code)), s.release)

/-- The address table. -/
def fetch (s : System) : Table × System :=
  let (adapters, s) := s.fetchAdapters
  (adapters.map fun entries => entries.flatMap AdapterEntry.records, s)

end System

end AddressWatch.Windows
