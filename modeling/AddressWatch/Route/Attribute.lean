/-
  AddressWatch.Route.Attribute

  The attributes of a message: a length that counts its own four header bytes, a type, a value, and
  padding up to a multiple of four. The attribute list of an address message is readable only if
  every attribute in it is.
-/

import AddressWatch.Bytes.LittleEndian
import AddressWatch.IpAddr.Basic
import AddressWatch.Text.Utf8

namespace AddressWatch.Route

/-- `n` rounded up to a multiple of four. -/
def align (n : Nat) : Nat := (n + 3) / 4 * 4

theorem le_align (n : Nat) : n ≤ align n := by unfold align; omega

/-- An attribute of an address message. -/
inductive Attribute where
  | address (ip : IpAddr)
  | localAddress (ip : IpAddr)
  | label (text : List Char)
  | broadcast (address : Ipv4)
  | anycast (address : Ipv6)
  | multicast (address : Ipv6)
  | cacheInfo (value : List UInt8)
  | flags (value : List UInt8)
  | other (type : Nat) (value : List UInt8)
  deriving DecidableEq

namespace Attribute

/-- The bytes of a label without a zero byte that ends it. -/
def labelBytes (value : List UInt8) : List UInt8 :=
  if value.getLast? = some 0 then value.dropLast else value

/-- The attribute of a type with a value, if the value fits the type. -/
def ofValue? (type : Nat) (value : List UInt8) : Option Attribute :=
  match type with
  | 1 => (IpAddr.ofBytes? value).map .address
  | 2 => (IpAddr.ofBytes? value).map .localAddress
  | 3 => (Text.decode? (labelBytes value)).map .label
  | 4 => (Ipv4.ofBytes? value).map .broadcast
  | 5 => (Ipv6.ofBytes? value).map .anycast
  | 6 => if 16 ≤ value.length then some (.cacheInfo value) else none
  | 7 => (Ipv6.ofBytes? value).map .multicast
  | 8 => if value.length = 4 then some (.flags value) else none
  | _ => some (.other type value)

/-- Zero bytes that pad `n` bytes to a multiple of four. -/
def padding (n : Nat) : List UInt8 := List.replicate (align n - n) 0

/-- The number of types; the two bits of the type field above them are flags. -/
def typeCount : Nat := 0x4000

/-- Takes an attribute list apart, to its end: the type and the value of each attribute. -/
def split? (bytes : List UInt8) : Option (List (Nat × List UInt8)) :=
  if bytes.isEmpty then some []
  else
    let length := Bytes.field bytes 0 2
    let type := Bytes.field bytes 2 2 % typeCount
    if _h : bytes.length < 4 ∨ length < 4 ∨ bytes.length < length then none
    else (split? (bytes.drop (align length))).map ((type, (bytes.drop 4).take (length - 4)) :: ·)
termination_by bytes.length
decreasing_by
  have := le_align (Bytes.field bytes 0 2)
  simp only [List.length_drop]
  omega

/-- Reads an attribute list to its end. -/
def decodeList (bytes : List UInt8) : Option (List Attribute) :=
  (split? bytes).bind fun parts => parts.mapM fun (type, value) => ofValue? type value

end Attribute

end AddressWatch.Route
