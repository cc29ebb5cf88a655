/-
  AddressWatch.AddressList

  The outcome of an enumeration: the records found, or the error that prevented it. A list that
  carries an error carries no records.
-/

import AddressWatch.AddressRecord
import AddressWatch.FetchError

namespace AddressWatch

/-- The records of an enumeration, or why there are none. -/
structure AddressList where
  records : List AddressRecord
  error : Option FetchError
  deriving DecidableEq

namespace AddressList

/-- A list of records without an error. -/
def ofRecords (records : List AddressRecord) : AddressList := ⟨records, none⟩

/-- The list of a failed enumeration. -/
def failed (error : FetchError) : AddressList := ⟨[], some error⟩

/-- The list of no records and no error. -/
def empty : AddressList := ⟨[], none⟩

instance : Inhabited AddressList := ⟨empty⟩

/-- The number of records. -/
def size (l : AddressList) : Nat := l.records.length

/-- Whether there are no records. -/
def isEmpty (l : AddressList) : Bool := l.records.isEmpty

/-- Whether the enumeration failed. -/
def isError (l : AddressList) : Bool := l.error.isSome

/-- The code of the error, zero without one. -/
def errorCode (l : AddressList) : Int32 := (l.error.map FetchError.code).getD 0

/-- The first record of the named interface. -/
def findByInterface? (l : AddressList) (name : String) : Option AddressRecord :=
  l.records.find? (·.interface == name)

/-- The list with only the records that satisfy `keep`. -/
def retain (l : AddressList) (keep : AddressRecord → Bool) : AddressList :=
  { l with records := l.records.filter keep }

/-- The text block of the record with the given number. -/
def entryText (number : Nat) (r : AddressRecord) : String :=
  String.join
    [ Text.decimal number, ". Interface: ", r.interface, "\n",
      "   Address:   ", r.address.text, "\n",
      "   Family:    ", r.family.text, "\n",
      "   Prefix:    /", Text.decimal r.prefixLength.toNat, "\n",
      "   Status:    ", r.status, "\n",
      "   Type:      ", r.interfaceType, "\n",
      String.ofList (List.replicate 40 '-'), "\n" ]

/-- The text blocks of `records`, numbered from `number`. -/
def entriesText (number : Nat) : List AddressRecord → String
  | [] => ""
  | r :: rest => entryText number r ++ entriesText (number + 1) rest

/-- The list as text: the error, or a heading and a block for each record. -/
def text (l : AddressList) : String :=
  match l.error with
  | some e =>
    String.join ["Error [", Text.signedDecimal e.code.toInt, "]: ", e.message, "\n"]
  | none =>
    String.join
      [ "System IP addresses (", Text.decimal l.size, "):\n",
        String.ofList (List.replicate 40 '='), "\n", entriesText 1 l.records ]

end AddressList

end AddressWatch
