/-
  AddressWatch.AddressRecord.Json

  Records as JSON. A record is written as an object of its five fields. It is read from such an
  object, with the fields in any order and other fields skipped, or from an array of the five
  values. A prefix length that is read is kept as it is, even one that is longer than the address.
-/

import AddressWatch.AddressRecord
import AddressWatch.IpAddr.Parser
import AddressWatch.Json.Decode
import AddressWatch.Json.Value

namespace AddressWatch

namespace AddressRecord

/-- The document of a record. -/
def toJson (r : AddressRecord) : Json :=
  .object
    [ ("interface", .string r.interface),
      ("address", .string r.address.text),
      ("prefix_length", .int r.prefixLength.toNat),
      ("is_up", .bool r.isUp),
      ("is_loopback", .bool r.isLoopback) ]

/-- The fields of a record that have been read. -/
structure Draft where
  interface : Option String := none
  address : Option IpAddr := none
  prefixLength : Option UInt8 := none
  isUp : Option Bool := none
  isLoopback : Option Bool := none

/-- A field that must have been read. -/
def required {α : Type} (name : String) : Option α → Except Json.DecodeError α
  | some a => .ok a
  | none => .error (.missingField name)

/-- The record of the fields, or which of them is missing first. -/
def Draft.finish (d : Draft) : Except Json.DecodeError AddressRecord := do
  let interface ← required "interface" d.interface
  let address ← required "address" d.address
  let prefixLength ← required "prefix_length" d.prefixLength
  let isUp ← required "is_up" d.isUp
  let isLoopback ← required "is_loopback" d.isLoopback
  pure { interface, address, prefixLength, isUp, isLoopback }

/-- Reads an interface name. -/
def decodeName (cs : List Char) : Except Json.DecodeError (String × List Char) :=
  match Json.decodeString "a string" cs with
  | .error e => .error e
  | .ok (text, rest) => .ok (String.ofList text, rest)

/-- Reads an IP address. -/
def decodeAddress (cs : List Char) : Except Json.DecodeError (IpAddr × List Char) :=
  match Json.decodeString "IP address" cs with
  | .error e => .error e
  | .ok (text, rest) =>
    match IpAddr.parse? text with
    | some x => .ok (x, rest)
    | none => .error .invalidAddress

/-- Reads the value of a field, which must not have been read before. -/
def decodeField {α : Type} (name : String) (read : Json.Reader α) (old : Option α)
    (cs : List Char) : Except Json.DecodeError (Option α × List Char) :=
  if old.isSome then .error (.duplicateField name)
  else
    match Json.decodeColon cs with
    | .error e => .error e
    | .ok cs =>
      match read cs with
      | .error e => .error e
      | .ok (a, rest) => .ok (some a, rest)

/-- Reads the value of the named field into the draft. -/
def Draft.decode (d : Draft) (name : String) (cs : List Char) :
    Except Json.DecodeError (Draft × List Char) :=
  match name with
  | "interface" =>
    (decodeField name decodeName d.interface cs).map fun (a, rest) =>
      ({ d with interface := a }, rest)
  | "address" =>
    (decodeField name decodeAddress d.address cs).map fun (a, rest) =>
      ({ d with address := a }, rest)
  | "prefix_length" =>
    (decodeField name Json.decodeByte d.prefixLength cs).map fun (a, rest) =>
      ({ d with prefixLength := a }, rest)
  | "is_up" =>
    (decodeField name Json.decodeBool d.isUp cs).map fun (a, rest) =>
      ({ d with isUp := a }, rest)
  | "is_loopback" =>
    (decodeField name Json.decodeBool d.isLoopback cs).map fun (a, rest) =>
      ({ d with isLoopback := a }, rest)
  | _ => do
    let cs ← Json.decodeColon cs
    let rest ← Json.skipAny cs
    pure (d, rest)

/-- Reads the fields of an object into the draft, up to its closing brace. -/
def decodeFields : Nat → Bool → Draft → Json.Reader AddressRecord
  | 0, _, _, _ => .error (.fault .ended)
  | fuel + 1, first, d, cs =>
    match Json.decodeKey first cs with
    | .error e => .error e
    | .ok (none, rest) => d.finish.map (·, rest)
    | .ok (some key, rest) =>
      match d.decode (String.ofList key) rest with
      | .error e => .error e
      | .ok (d, rest) => decodeFields fuel false d rest

/-- Reads the item of an array at a position that must be there. -/
def decodeItem {α : Type} (position : Nat) (read : Json.Reader α) (cs : List Char) :
    Except Json.DecodeError (α × List Char) :=
  match Json.decodeNext (position == 0) cs with
  | .error e => .error e
  | .ok (false, _) =>
    .error (.invalidLength position "struct AddressRecord with 5 elements")
  | .ok (true, rest) => read rest

/-- Reads the five values of an array and its closing bracket. -/
def decodeItems (cs : List Char) : Except Json.DecodeError (AddressRecord × List Char) := do
  let (interface, cs) ← decodeItem 0 decodeName cs
  let (address, cs) ← decodeItem 1 decodeAddress cs
  let (prefixLength, cs) ← decodeItem 2 Json.decodeByte cs
  let (isUp, cs) ← decodeItem 3 Json.decodeBool cs
  let (isLoopback, cs) ← decodeItem 4 Json.decodeBool cs
  let rest ← Json.decodeEnd cs
  pure ({ interface, address, prefixLength, isUp, isLoopback }, rest)

/-- Reads a record. -/
def decode (cs : List Char) : Except Json.DecodeError (AddressRecord × List Char) :=
  match Json.skipBlanks cs with
  | [] => .error (.fault .ended)
  | '[' :: rest => decodeItems rest
  | '\x7b' :: rest => decodeFields (rest.length + 1) true {} rest
  | other => .error (Json.mismatch "struct AddressRecord" other)

/-- The record that a text is. -/
def ofJsonText (cs : List Char) : Except Json.DecodeError AddressRecord := Json.atEnd (decode cs)

end AddressRecord

namespace AddressFamily

/-- The document of a family. -/
def toJson (f : AddressFamily) : Json := .string f.text

/-- The family of a name. -/
def ofName (name : List Char) : Except Json.DecodeError AddressFamily :=
  match String.ofList name with
  | "IPv4" => .ok .ipv4
  | "IPv6" => .ok .ipv6
  | other => .error (.unknownVariant other "IPv4" "IPv6")

/-- Reads a family: its name, or an object with its name as the only key and no content. -/
def decode (cs : List Char) : Except Json.DecodeError (AddressFamily × List Char) :=
  match Json.skipBlanks cs with
  | [] => .error (.fault .ended)
  | '"' :: rest => do
    let (name, rest) ← Json.ofFault (Json.readString rest)
    let f ← ofName name
    pure (f, rest)
  | '\x7b' :: rest => do
    let (name, rest) ← Json.decodeString "variant identifier" rest
    let f ← ofName name
    let rest ← Json.decodeColon rest
    let (_, rest) ← Json.decodeUnit rest
    match Json.skipBlanks rest with
    | [] => throw (.fault .ended)
    | '\x7d' :: rest => pure (f, rest)
    | _ => throw (.fault .malformed)
  | _ => .error (.fault .malformed)

/-- The family that a text is. -/
def ofJsonText (cs : List Char) : Except Json.DecodeError AddressFamily := Json.atEnd (decode cs)

end AddressFamily

end AddressWatch
