/-
  AddressWatch.Proofs.AddressRecord.RoundTrip

  Records through their JSON text. The text of a record is read as that record, whatever its name,
  its address, its prefix length and its flags are (`ofJsonText_text`). A text that is read, in
  whatever spelling, is replaced by the text of its record when it is written again; that text
  denotes the same record, and writing it again does not change it (`json_round_trip`).
-/

import AddressWatch.AddressRecord.Json
import AddressWatch.Proofs.IpAddr.Text
import AddressWatch.Proofs.Json.Document

namespace AddressWatch.AddressRecord

open Json

/-! ## The values of the fields -/

theorem decodeString_stringChars (expected text : String) (rest : List Char) :
    decodeString expected (stringChars text ++ rest) = .ok (text.toList, rest) := by
  rw [stringChars_append, decodeString, skipBlanks_cons (by decide)]
  simp only [readString_flatMap_escapeChar, ofFault]

theorem decodeName_stringChars (name : String) (rest : List Char) :
    decodeName (stringChars name ++ rest) = .ok (name, rest) := by
  simp only [decodeName, decodeString_stringChars, String.ofList_toList]

theorem decodeAddress_stringChars (x : IpAddr) (rest : List Char) :
    decodeAddress (stringChars x.text ++ rest) = .ok (x, rest) := by
  simp only [decodeAddress, decodeString_stringChars, IpAddr.parse?_text]

theorem decodeBool_chars (b : Bool) (rest : List Char) :
    decodeBool ((Json.bool b).chars ++ rest) = .ok (b, rest) := by
  cases b <;> rfl

theorem decodeByte_chars (b : UInt8) {rest : List Char} (hrest : EndsValue rest) :
    decodeByte ((Json.int b.toNat).chars ++ rest) = .ok (b, rest) :=
  decodeByte_signedDecimal b hrest

/-! ## The fields of an object -/

/-- A member of an object up to the value of its field, behind a comma if it is not the first. -/
def memberStart (first : Bool) (key : String) : List Char :=
  (if first then [] else [',']) ++ stringChars key

theorem decodeKey_memberStart (first : Bool) (key : String) (rest : List Char) :
    decodeKey first (memberStart first key ++ rest) = .ok (some key.toList, rest) := by
  cases first with
  | true =>
      show decodeKey true (stringChars key ++ rest) = _
      rw [stringChars_append, decodeKey, skipBlanks_cons (by decide)]
      simp only [readString_flatMap_escapeChar, if_true]
  | false =>
      show decodeKey false (',' :: (stringChars key ++ rest)) = _
      rw [stringChars_append, decodeKey, skipBlanks_cons (by decide)]
      simp only [skipBlanks_cons (show isBlank '"' = false by decide),
        readString_flatMap_escapeChar, Bool.false_eq_true, if_false]

theorem decodeFields_member {fuel : Nat} {first : Bool} {d d' : Draft} {key : String}
    {value rest : List Char} (hvalue : d.decode key (':' :: value) = .ok (d', rest)) :
    decodeFields (fuel + 1) first d (memberStart first key ++ ':' :: value) =
      decodeFields fuel false d' rest := by
  rw [decodeFields, decodeKey_memberStart]
  simp only [String.ofList_toList, hvalue]

theorem decodeFields_end (fuel : Nat) (d : Draft) (rest : List Char) :
    decodeFields (fuel + 1) false d ('}' :: rest) = d.finish.map (·, rest) := rfl

/-- A field that has not been read takes the value that stands behind the colon. -/
theorem decodeField_of_none {α : Type} (name : String) {read : Reader α} {value rest : List Char}
    {a : α} (hread : read value = .ok (a, rest)) :
    decodeField name read none (':' :: value) = .ok (some a, rest) := by
  have hcolon : decodeColon (':' :: value) = .ok value := rfl
  rw [decodeField, if_neg (by simp), hcolon]
  simp only [hread]

namespace Draft

variable {d : Draft}

theorem decode_interface (hd : d.interface = none) (name : String) (rest : List Char) :
    d.decode "interface" (':' :: (stringChars name ++ rest)) =
      .ok ({ d with interface := some name }, rest) := by
  simp only [decode, hd, decodeField_of_none _ (decodeName_stringChars name rest), Except.map]

theorem decode_address (hd : d.address = none) (x : IpAddr) (rest : List Char) :
    d.decode "address" (':' :: (stringChars x.text ++ rest)) =
      .ok ({ d with address := some x }, rest) := by
  simp only [decode, hd, decodeField_of_none _ (decodeAddress_stringChars x rest), Except.map]

theorem decode_prefixLength (hd : d.prefixLength = none) (b : UInt8) {rest : List Char}
    (hrest : EndsValue rest) :
    d.decode "prefix_length" (':' :: ((Json.int b.toNat).chars ++ rest)) =
      .ok ({ d with prefixLength := some b }, rest) := by
  simp only [decode, hd, decodeField_of_none _ (decodeByte_chars b hrest), Except.map]

theorem decode_isUp (hd : d.isUp = none) (b : Bool) (rest : List Char) :
    d.decode "is_up" (':' :: ((Json.bool b).chars ++ rest)) =
      .ok ({ d with isUp := some b }, rest) := by
  simp only [decode, hd, decodeField_of_none _ (decodeBool_chars b rest), Except.map]

theorem decode_isLoopback (hd : d.isLoopback = none) (b : Bool) (rest : List Char) :
    d.decode "is_loopback" (':' :: ((Json.bool b).chars ++ rest)) =
      .ok ({ d with isLoopback := some b }, rest) := by
  simp only [decode, hd, decodeField_of_none _ (decodeBool_chars b rest), Except.map]

end Draft

/-! ## The text of a record -/

theorem endsValue_memberStart (key : String) (rest : List Char) :
    EndsValue (memberStart false key ++ rest) := .comma _

/-- The members of a record in order, and the brace behind them. -/
def fieldsText (r : AddressRecord) (rest : List Char) : List Char :=
  memberStart true "interface" ++ ':' :: (stringChars r.interface ++
    (memberStart false "address" ++ ':' :: (stringChars r.address.text ++
      (memberStart false "prefix_length" ++ ':' :: ((Json.int r.prefixLength.toNat).chars ++
        (memberStart false "is_up" ++ ':' :: ((Json.bool r.isUp).chars ++
          (memberStart false "is_loopback" ++ ':' :: ((Json.bool r.isLoopback).chars ++
            '}' :: rest)))))))))

theorem chars_toJson (r : AddressRecord) : r.toJson.chars = '{' :: r.fieldsText [] := by
  rw [toJson, chars_object, membersChars_cons_cons, membersChars_cons_cons,
    membersChars_cons_cons, membersChars_cons_cons, membersChars_singleton, chars_string,
    chars_string]
  simp only [fieldsText, memberStart, Bool.false_eq_true, if_true, if_false, List.nil_append,
    List.cons_append, List.append_assoc]

theorem le_length_fieldsText (r : AddressRecord) (rest : List Char) :
    6 ≤ (r.fieldsText rest).length := by
  have hkey : 6 ≤ (memberStart true "interface").length := by decide
  rw [fieldsText, List.length_append]
  omega

/-- The five fields are read one after the other into the draft, which is complete then. -/
theorem decodeFields_fieldsText (r : AddressRecord) {fuel : Nat} (hfuel : 6 ≤ fuel)
    (rest : List Char) : decodeFields fuel true {} (r.fieldsText rest) = .ok (r, rest) := by
  obtain ⟨n, rfl⟩ : ∃ n, fuel = n + 6 := ⟨fuel - 6, by omega⟩
  rw [fieldsText, decodeFields_member (Draft.decode_interface rfl _ _),
    decodeFields_member (Draft.decode_address rfl _ _),
    decodeFields_member (Draft.decode_prefixLength rfl _ (endsValue_memberStart _ _)),
    decodeFields_member (Draft.decode_isUp rfl _ _),
    decodeFields_member (Draft.decode_isLoopback rfl _ _), decodeFields_end]
  rfl

theorem ofJsonText_chars (r : AddressRecord) : ofJsonText r.toJson.chars = .ok r := by
  have hfields : decodeFields ((r.fieldsText []).length + 1) true {} (r.fieldsText []) =
      .ok (r, []) :=
    decodeFields_fieldsText r (Nat.le_succ_of_le (le_length_fieldsText r [])) []
  rw [ofJsonText, decode, chars_toJson, skipBlanks_cons (by decide)]
  simp only [hfields]
  rfl

/-- A record is read back from its text. -/
theorem ofJsonText_text (r : AddressRecord) : ofJsonText r.toJson.text.toList = .ok r := by
  rw [Json.text, String.toList_ofList, ofJsonText_chars]

/-! ## Rewriting a text -/

/-- What a text is rewritten to: the record that it is, written again. -/
def rewritten (text : String) : Except Json.DecodeError String :=
  (ofJsonText text.toList).map fun r => r.toJson.text

theorem rewritten_of_ok {text : String} {r : AddressRecord}
    (hread : ofJsonText text.toList = .ok r) : rewritten text = .ok r.toJson.text := by
  rw [rewritten, hread]
  rfl

/-- The text of a record is already what it is rewritten to. -/
theorem rewritten_text (r : AddressRecord) : rewritten r.toJson.text = .ok r.toJson.text :=
  rewritten_of_ok (ofJsonText_text r)

/-- Every record is read back from its text. Every text that is read as a record, however it is
written, is rewritten to one that is read as the same record and that rewriting leaves alone. -/
theorem json_round_trip :
    (∀ r : AddressRecord, ofJsonText r.toJson.text.toList = .ok r) ∧
      ∀ (text : String) (r : AddressRecord), ofJsonText text.toList = .ok r →
        ∃ canonical, rewritten text = .ok canonical ∧
          ofJsonText canonical.toList = .ok r ∧ rewritten canonical = .ok canonical := by
  refine ⟨ofJsonText_text, fun text r hread => ?_⟩
  exact ⟨r.toJson.text, rewritten_of_ok hread, ofJsonText_text r, rewritten_text r⟩

/-- A mapped address in an array with blanks and escapes, and an object with its fields in another
order, an unknown one among them, and a prefix length that is longer than the address. -/
theorem json_round_trip_of_other_spellings :
    (∃ canonical,
      rewritten "[ \"e\\u0074h\\n0\" ,\n \"::FFFF:1.2.3.4\", 24, true,false ]" = .ok canonical ∧
        ofJsonText canonical.toList =
          .ok ⟨"eth\n0", .v6 ⟨0, 0, 0, 0, 0, 0xffff, 0x102, 0x304⟩, 24, true, false⟩ ∧
        rewritten canonical = .ok canonical) ∧
      ∃ canonical,
        rewritten ("\x7b\"is_up\":true,\"mtu\":[1,\x7b\x7d],\"prefix_length\":200,"
            ++ "\"is_loopback\":true,\"address\":\"127.0.0.1\",\"interface\":\"\"\x7d") =
            .ok canonical ∧
          ofJsonText canonical.toList = .ok ⟨"", .v4 ⟨127, 0, 0, 1⟩, 200, true, true⟩ ∧
          rewritten canonical = .ok canonical :=
  ⟨json_round_trip.2 _ _ (by decide +kernel), json_round_trip.2 _ _ (by decide +kernel)⟩

end AddressWatch.AddressRecord
