/-
  AddressWatch.Route.Message

  Routing messages: a header of sixteen bytes with the length of the whole message and its type,
  and a payload. A message is read from the bytes that its header declares and from no others;
  where they are not all there, or do not fit the type, it cannot be read. The reader of messages
  about anything but addresses is a parameter.
-/

import AddressWatch.Route.OtherMessages

namespace AddressWatch.Route

/-- A message about an address of an interface. -/
structure AddressMessage where
  family : UInt8
  prefixLength : UInt8
  flags : UInt8
  scope : UInt8
  index : UInt32
  attributes : List Attribute
  deriving DecidableEq

namespace AddressMessage

/-- Reads the payload of an address message. -/
def decode? (payload : List UInt8) : Option AddressMessage :=
  match payload with
  | family :: prefixLength :: flags :: scope :: rest =>
    if rest.length < 4 then none
    else
      (Attribute.decodeList (rest.drop 4)).map fun attributes =>
        { family, prefixLength, flags, scope, attributes
          index := UInt32.ofNat (Bytes.field rest 0 4) }
  | _ => none

/-- The local address of the message: the last one given. -/
def lastLocal? (m : AddressMessage) : Option IpAddr :=
  m.attributes.foldl (fun last a => match a with | .localAddress ip => some ip | _ => last) none

/-- The peer or interface address of the message: the last one given. -/
def lastAddress? (m : AddressMessage) : Option IpAddr :=
  m.attributes.foldl (fun last a => match a with | .address ip => some ip | _ => last) none

/-- The address that the message is about: the local one, or else the other, which differs from it
only on links between two hosts. -/
def address? (m : AddressMessage) : Option IpAddr := m.lastLocal? <|> m.lastAddress?

end AddressMessage

/-- What a message says. -/
inductive Payload where
  /-- No message follows in the datagram. -/
  | done
  /-- The answer to a request; zero acknowledges it. -/
  | error (code : Int)
  | newAddress (m : AddressMessage)
  | delAddress (m : AddressMessage)
  /-- A message about something else. -/
  | unrelated
  deriving DecidableEq

/-- What a payload of the given type says, if it can be read. -/
def decodePayload? [OtherMessages] (type : Nat) (payload : List UInt8) : Option Payload :=
  match type with
  | 1 | 4 => some .unrelated
  | 2 =>
    if payload.length < 4 then none
    else some (.error (Bytes.signed32 (Bytes.field payload 0 4)))
  | 3 => some .done
  | 20 => (AddressMessage.decode? payload).map .newAddress
  | 21 => (AddressMessage.decode? payload).map .delAddress
  | 22 =>
    if payload.length = 4 then some .unrelated
    else (AddressMessage.decode? payload).map fun _ => .unrelated
  | _ =>
    match OtherMessages.reader? type with
    | none => none
    | some reads => if reads payload then some .unrelated else none

/-- The size of a message header. -/
def headerSize : Nat := 16

/-- The length that the header at the start of `bytes` declares, if there is a header and all of the
message is there. -/
def declaredLength? (bytes : List UInt8) : Option Nat :=
  if bytes.length < headerSize then none
  else
    let length := Bytes.field bytes 0 4
    if length < headerSize ∨ bytes.length < length then none else some length

theorem declaredLength?_bounds {bytes : List UInt8} {length : Nat}
    (h : declaredLength? bytes = some length) : headerSize ≤ length ∧ length ≤ bytes.length := by
  unfold declaredLength? at h
  split at h
  · cases h
  · simp only at h
    split at h
    · cases h
    · cases h
      omega

/-- What the message of the given length at the start of `bytes` says. -/
def decodeMessage? [OtherMessages] (bytes : List UInt8) (length : Nat) : Option Payload :=
  decodePayload? (Bytes.field bytes 4 2) ((bytes.take length).drop headerSize)

/-- The fields of a message header apart from its length. -/
structure Header where
  type : Nat
  flags : UInt16 := 0
  sequence : UInt32 := 0
  port : UInt32 := 0
  deriving DecidableEq

/-- The bytes of a message. -/
def encodeMessage (header : Header) (payload : List UInt8) : List UInt8 :=
  Bytes.toLittleEndian 4 (headerSize + payload.length) ++ Bytes.toLittleEndian 2 header.type
    ++ Bytes.toLittleEndian 2 header.flags.toNat ++ Bytes.toLittleEndian 4 header.sequence.toNat
    ++ Bytes.toLittleEndian 4 header.port.toNat ++ payload

end AddressWatch.Route
