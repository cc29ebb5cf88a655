/-
  AddressWatch.Proofs.Route.RoundTrip

  Reading what was written. A datagram of announcements, each a message that an address was added or
  removed, laid out as in `Proofs.Route.Layout`, is read as one notice for each announcement, in
  order (`Announcement.readDatagram_of_row`).
-/

import AddressWatch.Proofs.Route.Layout

namespace AddressWatch.Route

/-! ## Which attributes say something -/

/-- The types of the attributes that hold the interface address and the local address. -/
def addressType : Nat := 1

def localType : Nat := 2

/-- The value of an attribute fits its type: addresses have 4 or 16 bytes, those of one version the
number of that version, labels are UTF-8, and cache information and flags have their size. -/
def RawAttribute.Fitting (a : RawAttribute) : Prop :=
  match a.type with
  | 1 | 2 => a.value.length = 4 ∨ a.value.length = 16
  | 3 => (Text.decode? (Attribute.labelBytes a.value)).isSome
  | 4 => a.value.length = 4
  | 5 | 7 => a.value.length = 16
  | 6 => 16 ≤ a.value.length
  | 8 => a.value.length = 4
  | _ => True

/-- An attribute says something exactly if its value fits its type. -/
theorem RawAttribute.isSome_meaning? (a : RawAttribute) : a.meaning?.isSome ↔ a.Fitting := by
  -- One case for each type that `ofValue?` knows, and one for all others.
  unfold meaning? Fitting
  generalize a.type = type
  unfold Attribute.ofValue?
  split
  case h_1 | h_2 =>
    rw [Option.isSome_map]
    exact IpAddr.isSome_ofBytes?
  case h_3 =>
    rw [Option.isSome_map]
    exact Iff.rfl
  case h_4 =>
    rw [Option.isSome_map]
    exact Ipv4.isSome_ofBytes?
  case h_5 | h_7 =>
    rw [Option.isSome_map]
    exact Ipv6.isSome_ofBytes?
  case h_6 | h_8 => split <;> simp [*]
  case h_9 => simp

/-! ## The address that a message names -/

/-- The address in an attribute of the given type. -/
def Attribute.ipOfType? (type : Nat) : Attribute → Option IpAddr
  | .address ip => if type = addressType then some ip else none
  | .localAddress ip => if type = localType then some ip else none
  | _ => none

/-- The bytes of an address are the value of the attribute that says it. -/
theorem RawAttribute.ipOfType?_of_meaning? {a : RawAttribute} {x : Attribute}
    (hx : a.meaning? = some x) {type : Nat} (htype : type = addressType ∨ type = localType) :
    (x.ipOfType? type).map IpAddr.toBytes = if a.type = type then some a.value else none := by
  unfold meaning? at hx
  generalize a.type = t at hx ⊢
  have hip : ∀ ip, IpAddr.ofBytes? a.value = some ip → ip.toBytes = a.value := fun ip =>
    IpAddr.ofBytes?_eq_some_iff.mp
  unfold Attribute.ofValue? at hx
  split at hx
  case h_1 =>
    obtain ⟨ip, hread, rfl⟩ := Option.map_eq_some_iff.mp hx
    rcases htype with rfl | rfl
    · exact congrArg some (hip ip hread)
    · rfl
  case h_2 =>
    obtain ⟨ip, hread, rfl⟩ := Option.map_eq_some_iff.mp hx
    rcases htype with rfl | rfl
    · rfl
    · exact congrArg some (hip ip hread)
  case h_9 h₁ h₂ _ _ _ _ _ _ =>
    cases hx
    have hother : ¬ t = type := by
      rintro rfl
      exact htype.elim h₁ h₂
    rw [if_neg hother]
    rfl
  -- The other types say nothing about the two addresses.
  case h_3 | h_4 | h_5 | h_7 =>
    obtain ⟨_, _, rfl⟩ := Option.map_eq_some_iff.mp hx
    rcases htype with rfl | rfl <;> rfl
  case h_6 | h_8 =>
    split at hx
    · cases hx
      rcases htype with rfl | rfl <;> rfl
    · cases hx

/-- A fold that keeps the last hit gives the last hit. -/
theorem foldl_last {α β : Type} {f : α → Option β} {step : Option β → α → Option β}
    (hstep : ∀ last a, step last a = (f a).or last) (l : List α) (last : Option β) :
    l.foldl step last = (l.filterMap f).getLast?.or last := by
  induction l generalizing last with
  | nil => rfl
  | cons a rest ih =>
      rw [List.foldl_cons, ih, hstep, List.filterMap_cons]
      cases f a with
      | none => rfl
      | some b =>
          rw [List.getLast?_cons]
          cases (rest.filterMap f).getLast? <;> rfl

theorem AddressMessage.lastLocal?_eq (m : AddressMessage) :
    m.lastLocal? = (m.attributes.filterMap (Attribute.ipOfType? localType)).getLast? := by
  rw [lastLocal?, foldl_last (f := Attribute.ipOfType? localType), Option.or_none]
  intro last a
  cases a <;> rfl

theorem AddressMessage.lastAddress?_eq (m : AddressMessage) :
    m.lastAddress? = (m.attributes.filterMap (Attribute.ipOfType? addressType)).getLast? := by
  rw [lastAddress?, foldl_last (f := Attribute.ipOfType? addressType), Option.or_none]
  intro last a
  cases a <;> rfl

theorem AddressMessage.address?_eq (m : AddressMessage) :
    m.address? = (m.attributes.filterMap (Attribute.ipOfType? localType)).getLast?.or
      (m.attributes.filterMap (Attribute.ipOfType? addressType)).getLast? := by
  show m.lastLocal?.orElse (fun _ => m.lastAddress?) = _
  rw [Option.orElse_eq_or, lastLocal?_eq, lastAddress?_eq]

/-- The values of the attributes of the given type, in order. -/
def valuesOfType (type : Nat) (raws : List RawAttribute) : List (List UInt8) :=
  (raws.filter fun a => a.type = type).map RawAttribute.value

/-- The addresses of one type are read as they were written, in order. -/
theorem ipsOfType_of_mapM {raws : List RawAttribute} {attributes : List Attribute}
    (hmeaning : raws.mapM RawAttribute.meaning? = some attributes) {type : Nat}
    (htype : type = addressType ∨ type = localType) :
    (attributes.filterMap (Attribute.ipOfType? type)).map IpAddr.toBytes =
      valuesOfType type raws := by
  induction raws generalizing attributes with
  | nil =>
      cases hmeaning
      rfl
  | cons a rest ih =>
      rw [List.mapM_cons] at hmeaning
      obtain ⟨x, hx, hmeaning⟩ := Option.bind_eq_some_iff.mp hmeaning
      obtain ⟨xs, hxs, hmeaning⟩ := Option.bind_eq_some_iff.mp hmeaning
      cases hmeaning
      have hvalue := a.ipOfType?_of_meaning? hx htype
      have hlater := ih hxs
      rw [valuesOfType] at hlater ⊢
      by_cases ha : a.type = type
      · rw [if_pos ha, Option.map_eq_some_iff] at hvalue
        obtain ⟨ip, hip, hbytes⟩ := hvalue
        rw [List.filterMap_cons_some hip, List.map_cons, List.filter_cons_of_pos (by simpa using ha),
          List.map_cons, hbytes, hlater]
      · rw [if_neg ha, Option.map_eq_none_iff] at hvalue
        rw [List.filterMap_cons_none hvalue, List.filter_cons_of_neg (by simpa using ha), hlater]

/-! ## Announcements -/

/-- A message that an address of an interface was added or removed, with all that its sender is free
to choose. -/
structure Announcement where
  removed : Bool
  headerFlags : UInt16
  sequence : UInt32
  port : UInt32
  family : UInt8
  prefixLength : UInt8
  flags : UInt8
  scope : UInt8
  index : UInt32
  attributes : List RawAttribute
  fitting : ∀ a ∈ attributes, a.Fitting
  /-- The message names an address. -/
  addressed : ∃ a ∈ attributes, a.type = localType ∨ a.type = addressType

namespace Announcement

def kind (a : Announcement) : ChangeKind := if a.removed then .removed else .added

def header (a : Announcement) : Header :=
  { type := if a.removed then 21 else 20
    flags := a.headerFlags
    sequence := a.sequence
    port := a.port }

/-- The payload of an announcement whose attributes are laid out as `body`. -/
def payload (a : Announcement) (body : List UInt8) : List UInt8 :=
  [a.family, a.prefixLength, a.flags, a.scope] ++ Bytes.toLittleEndian 4 a.index.toNat ++ body

/-- The bytes are those of the announcement: its header with the length of all of it, its fixed part
and its attributes in a row. -/
def LaidOut (a : Announcement) (bytes : List UInt8) : Prop :=
  ∃ body, Row (a.attributes.map RawAttribute.bytes) body ∧
    headerSize + (a.payload body).length < 0x100000000 ∧
    bytes = encodeMessage a.header (a.payload body)

/-- The bytes of the address that the announcement is about: the last local address or, if there is
none, the last interface address. -/
def addressBytes? (a : Announcement) : Option (List UInt8) :=
  (valuesOfType localType a.attributes).getLast?.or
    (valuesOfType addressType a.attributes).getLast?

/-- The notice says what the announcement says. -/
structure Announces (a : Announcement) (n : Notice) : Prop where
  kind : n.kind = a.kind
  index : n.index = a.index
  address : a.addressBytes? = some n.address.toBytes

/-- Every announcement names an address. -/
theorem isSome_addressBytes? (a : Announcement) : a.addressBytes?.isSome := by
  obtain ⟨raw, hraw, htype⟩ := a.addressed
  have hnonempty : ∀ type, raw.type = type → (valuesOfType type a.attributes).getLast?.isSome := by
    intro type htype
    rw [Option.isSome_iff_ne_none, Ne, List.getLast?_eq_none_iff]
    apply List.ne_nil_of_mem (a := raw.value)
    rw [valuesOfType]
    exact List.mem_map_of_mem (List.mem_filter.mpr ⟨hraw, by simpa using htype⟩)
  rw [addressBytes?, Option.isSome_or, Bool.or_eq_true]
  exact htype.imp (hnonempty _) (hnonempty _)

/-- The attributes of an announcement can all be read. -/
theorem exists_mapM_meaning? {raws : List RawAttribute} (hfit : ∀ a ∈ raws, a.Fitting) :
    ∃ attributes, raws.mapM RawAttribute.meaning? = some attributes := by
  induction raws with
  | nil => exact ⟨[], rfl⟩
  | cons a rest ih =>
      obtain ⟨hfirst, hrest⟩ := List.forall_mem_cons.mp hfit
      obtain ⟨x, hx⟩ := Option.isSome_iff_exists.mp (a.isSome_meaning?.mpr hfirst)
      obtain ⟨xs, hxs⟩ := ih hrest
      refine ⟨x :: xs, ?_⟩
      rw [List.mapM_cons, hx, hxs]
      rfl

/-- The payload of an announcement is read as a message with its index that names its address. -/
theorem decode?_payload (a : Announcement) {body : List UInt8}
    (hrow : Row (a.attributes.map RawAttribute.bytes) body) :
    ∃ m, AddressMessage.decode? (a.payload body) = some m ∧ m.index = a.index ∧
      m.address?.map IpAddr.toBytes = a.addressBytes? := by
  obtain ⟨attributes, hmeaning⟩ := exists_mapM_meaning? a.fitting
  refine ⟨⟨a.family, a.prefixLength, a.flags, a.scope, a.index, attributes⟩, ?_, rfl, ?_⟩
  · rw [payload, AddressMessage.decode?_append, decodeList_of_row hrow, hmeaning]
    rfl
  · rw [AddressMessage.address?_eq, addressBytes?, ← ipsOfType_of_mapM hmeaning (.inl rfl),
      ← ipsOfType_of_mapM hmeaning (.inr rfl), List.getLast?_map, List.getLast?_map]
    exact Option.map_or

/-- The message of an announcement, as it is read. -/
def toPayload (a : Announcement) (m : AddressMessage) : Payload :=
  if a.removed then .delAddress m else .newAddress m

theorem decodePayload?_header [OtherMessages] (a : Announcement) (payload : List UInt8) :
    decodePayload? a.header.type payload =
      (AddressMessage.decode? payload).map a.toPayload := by
  unfold header toPayload
  cases a.removed <;> rfl

/-- The walk goes on behind an announcement and adds what it amounts to. -/
theorem resume_toPayload (a : Announcement) (m : AddressMessage) (rest : Reading) :
    (a.toPayload m).resume rest = rest.after (.ofMessage a.kind m) := by
  unfold toPayload kind
  cases a.removed <;> rfl

/-- What the walk does with an announcement: it gives its notice and goes on behind it. -/
theorem walk_append [OtherMessages] (a : Announcement) {message : List UInt8}
    (hmessage : a.LaidOut message) (offset : Nat) (tail : List UInt8) :
    ∃ n, a.Announces n ∧
      walk offset (message ++ tail) =
        (walk (offset + align message.length)
          ((message ++ tail).drop (align message.length))).after (.notice n) := by
  obtain ⟨body, hrow, hfits, rfl⟩ := hmessage
  obtain ⟨m, hm, hindex, haddress⟩ := a.decode?_payload hrow
  -- The message names an address, or the walk would find a message without one.
  obtain ⟨bytes, hbytes⟩ := Option.isSome_iff_exists.mp a.isSome_addressBytes?
  rw [hbytes, Option.map_eq_some_iff] at haddress
  obtain ⟨ip, hip, rfl⟩ := haddress
  refine ⟨⟨a.kind, a.index, ip⟩, ⟨rfl, rfl, hbytes⟩, ?_⟩
  have htype : a.header.type < 0x10000 := by
    show (if a.removed then 21 else 20) < 0x10000
    split <;> decide
  have hl := declaredLength?_encodeMessage a.header hfits tail
  have hp : decodeMessage? (encodeMessage a.header (a.payload body) ++ tail)
      (headerSize + (a.payload body).length) = some (a.toPayload m) := by
    rw [decodeMessage?_encodeMessage htype, decodePayload?_header, hm]
    rfl
  have hfinding : Finding.ofMessage a.kind m = .notice ⟨a.kind, a.index, ip⟩ := by
    rw [Finding.ofMessage, hip, hindex]
  rw [length_encodeMessage, walk_of_message hl hp, resume_toPayload, hfinding]

end Announcement

/-! ## Datagrams of announcements -/

/-- The walk over announcements in a row gives the notice of each of them, in order, and nothing
else. -/
theorem walk_of_row [OtherMessages] {announcements : List Announcement}
    {messages : List (List UInt8)}
    (hlaid : List.Forall₂ Announcement.LaidOut announcements messages) {bytes : List UInt8}
    (hrow : Row messages bytes) (offset : Nat) :
    ∃ notices, walk offset bytes = ⟨notices.map .notice, none⟩ ∧
      List.Forall₂ Announcement.Announces announcements notices := by
  -- On the announcements, wherever in the datagram the walk stands.
  induction hlaid generalizing bytes offset with
  | nil =>
      cases hrow
      refine ⟨[], ?_, .nil⟩
      rw [walk]
      rfl
  | @cons a message _ _ hmessage _ ih =>
      obtain ⟨tail, rfl, hrest⟩ := hrow.uncons
      obtain ⟨n, hn, hwalk⟩ := a.walk_append hmessage offset tail
      obtain ⟨notices, hnotices, hall⟩ := ih hrest (offset + align message.length)
      refine ⟨n :: notices, ?_, .cons hn hall⟩
      rw [hwalk, hnotices]
      rfl

/-- **Reading undoes writing.** A datagram of announcements, each laid out as one message and
padded, the last one perhaps not, is read without an error, as one notice for each announcement, in
order: of its kind, its interface index and its last local address or, without one, its last
interface address. -/
theorem Announcement.readDatagram_of_row [OtherMessages] {announcements : List Announcement}
    {messages : List (List UInt8)} (hlaid : List.Forall₂ LaidOut announcements messages)
    {datagram : List UInt8} (hrow : Row messages datagram) :
    ∃ notices, readDatagram datagram = ⟨notices.map .notice, none⟩ ∧
      List.Forall₂ Announces announcements notices :=
  walk_of_row hlaid hrow 0

namespace Announcement

/-- The near end of a tunnel was added: the far end stands in front of it, one byte about its
origin behind it. -/
def tunnelAdded : Announcement where
  removed := false
  headerFlags := 0
  sequence := 7
  port := 0
  family := 2
  prefixLength := 24
  flags := 0x80
  scope := 0
  index := 3
  attributes :=
    [⟨1, [10, 8, 0, 1], by decide⟩, ⟨2, [10, 8, 0, 2], by decide⟩, ⟨11, [3], by decide⟩]
  fitting := by
    intro a ha
    rw [← RawAttribute.isSome_meaning?]
    revert a
    decide
  addressed := ⟨_, .head _, .inr rfl⟩

/-- An IPv6 address was removed; one byte about its origin stands in front of it. -/
def hostRemoved : Announcement where
  removed := true
  headerFlags := 0
  sequence := 8
  port := 0
  family := 10
  prefixLength := 64
  flags := 0
  scope := 0xfd
  index := 4
  attributes :=
    [⟨11, [3], by decide⟩,
      ⟨1, [0xfe, 0x80, 0, 0, 0, 0, 0, 0, 0, 0, 0, 0, 0, 0, 0, 1], by decide⟩]
  fitting := by
    intro a ha
    rw [← RawAttribute.isSome_meaning?]
    revert a
    decide
  addressed := ⟨_, .tail _ (.head _), .inr rfl⟩

section

attribute [local instance] OtherMessages.framing

/-- Both are read from one datagram, with padding between them and none behind them. -/
theorem readDatagram_of_tunnelAdded_hostRemoved :
    ∃ notices,
      readDatagram
          (joinMessages
            [[45, 0, 0, 0, 20, 0, 0, 0, 7, 0, 0, 0, 0, 0, 0, 0,
              2, 24, 0x80, 0, 3, 0, 0, 0,
              8, 0, 1, 0, 10, 8, 0, 1,
              8, 0, 2, 0, 10, 8, 0, 2,
              5, 0, 11, 0, 3],
            [52, 0, 0, 0, 21, 0, 0, 0, 8, 0, 0, 0, 0, 0, 0, 0,
              10, 64, 0, 0xfd, 4, 0, 0, 0,
              5, 0, 11, 0, 3, 0, 0, 0,
              20, 0, 1, 0, 0xfe, 0x80, 0, 0, 0, 0, 0, 0, 0, 0, 0, 0, 0, 0, 0, 1]]) =
        ⟨notices.map .notice, none⟩ ∧
      List.Forall₂ Announces [tunnelAdded, hostRemoved] notices := by
  refine readDatagram_of_row (.cons ?_ (.cons ?_ .nil)) (row_joinMessages _)
  · refine ⟨_, @Row.cons _ [] _ _ rfl (@Row.cons _ [] _ _ rfl (.last _)), ?_, ?_⟩
    · decide
    · decide
  · refine ⟨_, @Row.cons _ [0, 0, 0] _ _ rfl (.last _), ?_, ?_⟩
    · decide
    · decide

end

end Announcement

end AddressWatch.Route
