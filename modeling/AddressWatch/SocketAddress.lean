/-
  AddressWatch.SocketAddress

  Socket addresses as they lie in memory: the family in the first two bytes, an IPv4 address at
  bytes 4 to 7, an IPv6 address at bytes 8 to 23 and its scope behind it. Everything after the
  given bytes is zero. The number of the IPv6 family differs from system to system.
-/

import AddressWatch.IpAddr.Basic
import AddressWatch.Bytes.LittleEndian

namespace AddressWatch

/-- The bytes of a socket address, with zeros after them. -/
structure SocketAddress where
  bytes : List UInt8
  deriving DecidableEq, Repr

namespace SocketAddress

/-- The number of the IPv4 family. -/
def inetFamily : Nat := 2

/-- The bytes from `start` on, `count` of them. -/
def window (a : SocketAddress) (start count : Nat) : List UInt8 :=
  (List.range count).map fun i => (a.bytes[start + i]?).getD 0

/-- The number of the family. -/
def family (a : SocketAddress) : Nat := Bytes.ofLittleEndian (a.window 0 2)

/-- The bytes of the address, read with the layout of the given family. -/
def addressBytes (a : SocketAddress) : AddressFamily → List UInt8
  | .ipv4 => a.window 4 4
  | .ipv6 => a.window 8 16

/-- The family, where it is one of the two internet families. -/
def addressFamily? (inet6Family : Nat) (a : SocketAddress) : Option AddressFamily :=
  if a.family = inetFamily then some .ipv4
  else if a.family = inet6Family then some .ipv6
  else none

/-- The IP address, for the two internet families. -/
def ip? (inet6Family : Nat) (a : SocketAddress) : Option IpAddr :=
  (a.addressFamily? inet6Family).bind fun f => IpAddr.ofBytes? (a.addressBytes f)

/-- The number of the family of an IP address. -/
def familyOf (inet6Family : Nat) : IpAddr → Nat
  | .v4 _ => inetFamily
  | .v6 _ => inet6Family

/-- The socket address of an IP address with the given family number. -/
def ofIp (address : IpAddr) (family scope : Nat) : SocketAddress where
  bytes :=
    Bytes.toLittleEndian 2 family ++
      match address with
      | .v4 x => [0, 0] ++ x.toBytes
      | .v6 x => [0, 0, 0, 0, 0, 0] ++ x.toBytes ++ Bytes.toLittleEndian 4 scope

/-- A socket address of which only the family is given. -/
def ofFamily (family : Nat) : SocketAddress := ⟨Bytes.toLittleEndian 2 family⟩

end SocketAddress

end AddressWatch
