/-
  AddressWatch.Monitor.Event

  Changes of addresses as they are delivered, as text and as JSON.
-/

import AddressWatch.IpAddr.Printer
import AddressWatch.Json.Value

namespace AddressWatch

/-- What happened to an address. -/
inductive ChangeKind where
  | added
  | removed
  | changed
  deriving DecidableEq, Repr

/-- The word for a kind of change. -/
def ChangeKind.text : ChangeKind → String
  | .added => "added"
  | .removed => "removed"
  | .changed => "changed"

/-- A change of an address of a network interface. -/
structure ChangeEvent where
  interface : String
  address : IpAddr
  kind : ChangeKind
  deriving DecidableEq

namespace ChangeEvent

/-- The address family of the event. -/
def family (e : ChangeEvent) : AddressFamily := e.address.family

/-- The event as a line of text. -/
def text (e : ChangeEvent) : String :=
  String.join
    ["[", e.kind.text, "] ", e.interface, " ", e.address.text, " (", e.family.text, ")"]

/-- The event as a JSON document. -/
def toJson (e : ChangeEvent) : Json :=
  .object
    [ ("interface", .string e.interface),
      ("address", .string e.address.text),
      ("family", .string e.family.text),
      ("kind", .string e.kind.text) ]

end ChangeEvent

end AddressWatch
