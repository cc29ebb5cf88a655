/-
  AddressWatch.AddressRecord

  One address of one network interface.
-/

import AddressWatch.IpAddr.Printer

namespace AddressWatch

/-- An address of a network interface, with the state of the interface. -/
@[ext]
structure AddressRecord where
  interface : String
  address : IpAddr
  prefixLength : UInt8
  isUp : Bool
  isLoopback : Bool
  deriving DecidableEq

namespace AddressRecord

/-- The address family of the record. -/
def family (r : AddressRecord) : AddressFamily := r.address.family

/-- A record whose prefix length is cut to the length of the address. -/
def clamped (interface : String) (address : IpAddr) (prefixLength : UInt8)
    (isUp isLoopback : Bool) : AddressRecord :=
  { interface, address, isUp, isLoopback
    prefixLength := min prefixLength address.family.maxPrefixLength }

/-- The word for the state of the interface. -/
def status (r : AddressRecord) : String := if r.isUp then "up" else "down"

/-- The word for the type of the interface. -/
def interfaceType (r : AddressRecord) : String := if r.isLoopback then "loopback" else "regular"

end AddressRecord

/-- The bits of a byte, the lowest first. -/
def bits (b : UInt8) : List Bool := (List.range 8).map b.toNat.testBit

/-- The prefix length that a netmask of at most 16 bytes stands for: the number of its set bits. -/
def maskPrefixLength (mask : List UInt8) : UInt8 := UInt8.ofNat ((mask.flatMap bits).count true)

end AddressWatch
