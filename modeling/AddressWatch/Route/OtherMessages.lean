/-
  AddressWatch.Route.OtherMessages

  Messages about anything but addresses: links, routes, neighbours, rules and so on. The walk over a
  datagram skips them, so that nothing depends on what is read in them, only on whether it can be
  read. Their reader is a parameter (`OtherMessages`), and what is proved of the walk holds of every
  reader. The one given here goes through the parts of a payload and looks into no attribute.
-/

import AddressWatch.Route.Attribute

namespace AddressWatch.Route

/-- The reader of messages about anything but addresses. -/
class OtherMessages where
  /-- For a type of message that is known, which payloads can be read. -/
  reader? (type : Nat) : Option (List UInt8 → Bool)

/-- The size of the fixed part with which a payload of the type begins, if the type is known. -/
def fixedSize? (type : Nat) : Option Nat :=
  if 16 ≤ type ∧ type ≤ 19 then some 16
  else if 24 ≤ type ∧ type ≤ 26 then some 12
  else if 28 ≤ type ∧ type ≤ 30 then some 12
  else if 32 ≤ type ∧ type ≤ 34 then some 12
  else if 36 ≤ type ∧ type ≤ 38 then some 20
  else if 40 ≤ type ∧ type ≤ 42 then some 20
  else if 44 ≤ type ∧ type ≤ 46 then some 20
  else if type = 52 then some 12
  else if type = 64 ∨ type = 66 ∨ type = 67 then some 4
  else if 88 ≤ type ∧ type ≤ 90 then some 4
  else if 100 ≤ type ∧ type ≤ 102 then some 20
  else none

/-- The type of a request for a link, which may be cut to four bytes. -/
def linkRequest : Nat := 18

/-- The reader that wants the fixed part of the type and whole attributes behind it. -/
@[reducible] def OtherMessages.framing : OtherMessages where
  reader? type := (fixedSize? type).map fun size payload =>
    (type = linkRequest ∧ payload.length = 4) ∨
      (size ≤ payload.length ∧ (Attribute.split? (payload.drop size)).isSome)

end AddressWatch.Route
