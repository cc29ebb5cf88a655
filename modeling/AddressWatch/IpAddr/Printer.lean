/-
  AddressWatch.IpAddr.Printer

  Dotted decimal for IPv4. For IPv6 the recommended form of RFC 5952: lower-case groups without
  leading zeros, the first longest run of two or more zero groups written `::`, and IPv4-mapped
  addresses with their last 32 bits in dotted decimal.
-/

import AddressWatch.IpAddr.Basic

namespace AddressWatch

open Text

/-- The texts of `parts` with `separator` between them. -/
def joinWith (separator : Char) : List (List Char) → List Char
  | [] => []
  | [part] => part
  | part :: rest => part ++ separator :: joinWith separator rest

namespace Ipv4

/-- Dotted decimal. -/
def chars (x : Ipv4) : List Char :=
  joinWith '.' (x.toBytes.map fun b => numeral 10 b.toNat)

end Ipv4

namespace Ipv6

/-- A run of zero groups: where it starts and how many groups it has. -/
structure ZeroRun where
  start : Nat
  length : Nat
  deriving DecidableEq, Repr

/-- The first longest run of zeros in `groups`, which stand at `position` and after; `current` is
the run that ends just before `position` and `best` the first longest one so far. -/
def longestZeroRunFrom (position : Nat) (current best : ZeroRun) : List UInt16 → ZeroRun
  | [] => best
  | g :: rest =>
    if g = 0 then
      let grown : ZeroRun :=
        if current.length = 0 then ⟨position, 1⟩ else ⟨current.start, current.length + 1⟩
      longestZeroRunFrom (position + 1) grown (if best.length < grown.length then grown else best) rest
    else longestZeroRunFrom (position + 1) ⟨0, 0⟩ best rest

/-- The first longest run of zeros; its length is 0 where there is none. -/
def longestZeroRun (groups : List UInt16) : ZeroRun :=
  longestZeroRunFrom 0 ⟨0, 0⟩ ⟨0, 0⟩ groups

/-- Groups in hexadecimal, colons between them. -/
def groupsText (groups : List UInt16) : List Char :=
  joinWith ':' (groups.map fun g => numeral 16 g.toNat)

/-- The text of an address that is not IPv4-mapped. -/
def compressed (groups : List UInt16) : List Char :=
  let run := longestZeroRun groups
  if 1 < run.length then
    groupsText (groups.take run.start) ++ [':', ':'] ++
      groupsText (groups.drop (run.start + run.length))
  else groupsText groups

/-- The recommended text of the address. -/
def chars (x : Ipv6) : List Char :=
  match x.mapped? with
  | some address => [':', ':', 'f', 'f', 'f', 'f', ':'] ++ address.chars
  | none => compressed x.toGroups

end Ipv6

namespace IpAddr

/-- The text of the address, character by character. -/
def chars : IpAddr → List Char
  | .v4 x => x.chars
  | .v6 x => x.chars

/-- The text of the address. -/
def text (x : IpAddr) : String := String.ofList x.chars

end IpAddr

end AddressWatch
