/-
  AddressWatch.IpAddr.Parser

  IPv4 is four decimal numbers up to 255 without leading zeros. IPv6 is eight groups of one to
  four hexadecimal digits, of which one run of one or more zero groups may be left out as `::` and
  the last two may be written as an IPv4 address. Nothing else may surround the address: no scope,
  no brackets.

  Each reader takes the characters that are left and gives, with its result, the characters after
  it; on a failure nothing is consumed.
-/

import AddressWatch.IpAddr.Basic

namespace AddressWatch

open Text

/-- Reads a run of at most `maxDigits` digits, at least one. -/
def readNumber? (base maxDigits : Nat) (cs : List Char) : Option (Nat × Nat × List Char) :=
  let digits := cs.takeWhile fun c => (digitValue? base c).isSome
  if maxDigits < digits.length then none
  else (readNumeral base digits).map fun n => (n, digits.length, cs.drop digits.length)

/-- Reads the character `c`. -/
def readChar? (c : Char) : List Char → Option (List Char)
  | [] => none
  | x :: rest => if x = c then some rest else none

namespace Ipv4

/-- Reads one byte of dotted decimal. -/
def readByte? (cs : List Char) : Option (UInt8 × List Char) := do
  let (n, digits, rest) ← readNumber? 10 3 cs
  if (1 < digits ∧ cs.head? = some '0') ∨ 255 < n then none
  else some (UInt8.ofNat n, rest)

/-- Reads an address in dotted decimal. -/
def read? (cs : List Char) : Option (Ipv4 × List Char) := do
  let (a, cs) ← readByte? cs
  let (b, cs) ← readChar? '.' cs >>= readByte?
  let (c, cs) ← readChar? '.' cs >>= readByte?
  let (d, cs) ← readChar? '.' cs >>= readByte?
  some (⟨a, b, c, d⟩, cs)

end Ipv4

namespace Ipv6

/-- Skips the colon in front of a group that is not the first of its run. -/
def skipColon? (first : Bool) (cs : List Char) : Option (List Char) :=
  if first then some cs else readChar? ':' cs

/-- Reads one group. -/
def readGroup? (first : Bool) (cs : List Char) : Option (UInt16 × List Char) := do
  let cs ← skipColon? first cs
  let (n, _, rest) ← readNumber? 16 4 cs
  some (UInt16.ofNat n, rest)

/-- Reads an IPv4 address that takes the place of the last two groups. -/
def readEmbedded? (first : Bool) (cs : List Char) : Option (List UInt16 × List Char) := do
  let cs ← skipColon? first cs
  let (x, rest) ← Ipv4.read? cs
  some ([groupOf x.a x.b, groupOf x.c x.d], rest)

/-- What a run of groups was read as: its groups, whether an IPv4 address ends it, and what
follows. -/
structure GroupRun where
  groups : List UInt16
  endsInIpv4 : Bool
  rest : List Char

/-- Reads as many groups as there are, up to `room` of them. -/
def readGroups (first : Bool) : Nat → List Char → GroupRun
  | 0, cs => ⟨[], false, cs⟩
  | room + 1, cs =>
    match if 1 ≤ room then readEmbedded? first cs else none with
    | some (groups, rest) => ⟨groups, true, rest⟩
    | none =>
      match readGroup? first cs with
      | none => ⟨[], false, cs⟩
      | some (g, rest) =>
        let more := readGroups false room rest
        ⟨g :: more.groups, more.endsInIpv4, more.rest⟩

/-- Reads an address. -/
def read? (cs : List Char) : Option (Ipv6 × List Char) :=
  let head := readGroups true 8 cs
  if head.groups.length = 8 then (ofGroups? head.groups).map (·, head.rest)
  else if head.endsInIpv4 then none
  else do
    let cs ← readChar? ':' head.rest
    let cs ← readChar? ':' cs
    let tail := readGroups true (7 - head.groups.length) cs
    let zeros := List.replicate (8 - head.groups.length - tail.groups.length) 0
    let x ← ofGroups? (head.groups ++ zeros ++ tail.groups)
    some (x, tail.rest)

end Ipv6

namespace IpAddr

/-- The address that `cs` spells, if the whole of it does. -/
def parse? (cs : List Char) : Option IpAddr :=
  match Ipv4.read? cs with
  | some (x, rest) => if rest.isEmpty then some (.v4 x) else none
  | none =>
    match Ipv6.read? cs with
    | some (x, rest) => if rest.isEmpty then some (.v6 x) else none
    | none => none

end IpAddr

end AddressWatch
