/-
  AddressWatch.Unix.InterfaceEntry

  The entries of the system's interface list and the records they stand for. An entry without a
  name or without an internet address stands for none. The netmask is read with the layout of the
  address's family, whatever its own family says, and its set bits are counted.
-/

import AddressWatch.Enumeration
import AddressWatch.SocketAddress
import AddressWatch.Text.Utf8

namespace AddressWatch.Unix

/-- The number of the IPv6 family. -/
def inet6Family : Nat := 10

/-- An entry of the interface list; missing parts are null pointers of the system. -/
structure InterfaceEntry where
  name : Option (List UInt8)
  flags : UInt32
  address : Option SocketAddress
  mask : Option SocketAddress
  deriving DecidableEq, Repr

/-- The text of a name that ends at its first zero byte; malformed parts are replaced. -/
def nameText (bytes : List UInt8) : String :=
  String.ofList (Text.decodeLossy (bytes.takeWhile (· ≠ 0)))

namespace InterfaceEntry

/-- Whether the flag word says that the interface is up. -/
def isUp (e : InterfaceEntry) : Bool := e.flags.toNat.testBit 0

/-- Whether the flag word says that the interface is a loopback interface. -/
def isLoopback (e : InterfaceEntry) : Bool := e.flags.toNat.testBit 3

/-- The prefix length that the mask stands for in a family; zero without a mask. -/
def prefixLength (e : InterfaceEntry) (f : AddressFamily) : UInt8 :=
  match e.mask with
  | none => 0
  | some mask => maskPrefixLength (mask.addressBytes f)

/-- The record of the entry. -/
def record? (e : InterfaceEntry) : Option AddressRecord := do
  let address ← e.address
  let ip ← address.ip? inet6Family
  let name ← e.name
  some (.clamped (nameText name) ip (e.prefixLength ip.family) e.isUp e.isLoopback)

end InterfaceEntry

/-- The records of the interface list, in its order. -/
def records (entries : List InterfaceEntry) : List AddressRecord :=
  entries.filterMap InterfaceEntry.record?

/-- The address table, from what asking for the interface list comes to. -/
def fetch (answer : Except Int32 (List InterfaceEntry)) : Table :=
  match answer with
  | .ok entries => .ok (records entries)
  | .error errno => .error (.io "getifaddrs" (.errno errno))

end AddressWatch.Unix
