/-
  AddressWatch.IpAddr.Basic

  IPv4 addresses as four bytes and IPv6 addresses as eight 16-bit groups, with their conversion from
  and to network byte order.
-/

import AddressWatch.Text.Numeral

namespace AddressWatch

/-- An IPv4 address, first byte first. -/
structure Ipv4 where
  a : UInt8
  b : UInt8
  c : UInt8
  d : UInt8
  deriving DecidableEq, Repr, Inhabited

/-- An IPv6 address, first group first. -/
structure Ipv6 where
  g0 : UInt16
  g1 : UInt16
  g2 : UInt16
  g3 : UInt16
  g4 : UInt16
  g5 : UInt16
  g6 : UInt16
  g7 : UInt16
  deriving DecidableEq, Repr, Inhabited

/-- An IP address of either version. -/
inductive IpAddr where
  | v4 (address : Ipv4)
  | v6 (address : Ipv6)
  deriving DecidableEq, Repr

/-- The version of an IP address. -/
inductive AddressFamily where
  | ipv4
  | ipv6
  deriving DecidableEq, Repr

namespace Ipv4

/-- The bytes in network order. -/
def toBytes (x : Ipv4) : List UInt8 := [x.a, x.b, x.c, x.d]

/-- The address whose bytes in network order are given. -/
def ofBytes? : List UInt8 → Option Ipv4
  | [a, b, c, d] => some ⟨a, b, c, d⟩
  | _ => none

@[simp] theorem ofBytes?_toBytes (x : Ipv4) : ofBytes? x.toBytes = some x := rfl

end Ipv4

namespace Ipv6

/-- The groups in order. -/
def toGroups (x : Ipv6) : List UInt16 := [x.g0, x.g1, x.g2, x.g3, x.g4, x.g5, x.g6, x.g7]

/-- The address with the given eight groups. -/
def ofGroups? : List UInt16 → Option Ipv6
  | [a, b, c, d, e, f, g, h] => some ⟨a, b, c, d, e, f, g, h⟩
  | _ => none

/-- The high and the low byte of a group. -/
def groupBytes (g : UInt16) : List UInt8 :=
  [UInt8.ofNat (g.toNat / 256), UInt8.ofNat (g.toNat % 256)]

/-- The group with the given high and low byte. -/
def groupOf (high low : UInt8) : UInt16 := UInt16.ofNat (high.toNat * 256 + low.toNat)

/-- The bytes in network order. -/
def toBytes (x : Ipv6) : List UInt8 := x.toGroups.flatMap groupBytes

/-- The address whose bytes in network order are given. -/
def ofBytes? : List UInt8 → Option Ipv6
  | [a, b, c, d, e, f, g, h, i, j, k, l, m, n, o, p] =>
    some ⟨groupOf a b, groupOf c d, groupOf e f, groupOf g h, groupOf i j, groupOf k l, groupOf m n,
      groupOf o p⟩
  | _ => none

@[simp] theorem ofGroups?_toGroups (x : Ipv6) : ofGroups? x.toGroups = some x := rfl

/-- The IPv4 address that an IPv4-mapped address `::ffff:a.b.c.d` stands for. -/
def mapped? (x : Ipv6) : Option Ipv4 :=
  match x.toGroups with
  | [0, 0, 0, 0, 0, 0xffff, high, low] => Ipv4.ofBytes? (groupBytes high ++ groupBytes low)
  | _ => none

end Ipv6

namespace IpAddr

/-- The version of an address. -/
def family : IpAddr → AddressFamily
  | .v4 _ => .ipv4
  | .v6 _ => .ipv6

/-- The bytes in network order. -/
def toBytes : IpAddr → List UInt8
  | .v4 x => x.toBytes
  | .v6 x => x.toBytes

/-- The address whose 4 or 16 bytes in network order are given. -/
def ofBytes? (bytes : List UInt8) : Option IpAddr :=
  if bytes.length = 4 then (Ipv4.ofBytes? bytes).map .v4
  else (Ipv6.ofBytes? bytes).map .v6

end IpAddr

namespace AddressFamily

/-- The name shown for a family. -/
def text : AddressFamily → String
  | .ipv4 => "IPv4"
  | .ipv6 => "IPv6"

/-- The number of bits in an address of the family. -/
def maxPrefixLength : AddressFamily → UInt8
  | .ipv4 => 32
  | .ipv6 => 128

end AddressFamily

end AddressWatch
