/-
  AddressWatch.Toml.Section

  Reading values of known types from a settings text. A section is a table with known fields,
  visited in the order of their names, or an array of the values of its fields in the order in
  which they are declared. The first value that does not fit ends the reading.
-/

import AddressWatch.Binary64.Shortest
import AddressWatch.Text.Quoted
import AddressWatch.Toml.Value

namespace AddressWatch.Toml

/-- Why a value does not fit. -/
inductive DecodeError where
  | unknownField (name : String) (expected : List String)
  /-- The value has another type than expected. -/
  | invalidType (found expected : String)
  /-- The value has the expected type and is out of its range. -/
  | invalidValue (found expected : String)
  | invalidLength (length : Nat) (expected : String)
  /-- The number is too large for every type. -/
  | overflow
  deriving DecidableEq, Repr

/-- A name between backquotes. -/
def named (name : String) : String := "`" ++ name ++ "`"

/-- The names that were expected, as a message gives them. -/
def expectedNames : List String → String
  | [] => "there are no fields"
  | [a] => "expected " ++ named a
  | [a, b] => "expected " ++ named a ++ " or " ++ named b
  | names => "expected one of " ++ ", ".intercalate (names.map named)

/-- The text of the error, where it is one about data. -/
def DecodeError.message? : DecodeError → Option String
  | .unknownField name expected =>
    some ("unknown field " ++ named name ++ ", " ++ expectedNames expected)
  | .invalidType found expected => some ("invalid type: " ++ found ++ ", expected " ++ expected)
  | .invalidValue found expected => some ("invalid value: " ++ found ++ ", expected " ++ expected)
  | .invalidLength length expected =>
    some ("invalid length " ++ Text.decimal length ++ ", expected " ++ expected)
  | .overflow => none

/-! ## What was found -/

/-- Floating-point numbers are shown without exponents. -/
def floatLayout : Binary64.Layout := ⟨false, 0, 0⟩

/-- Whether an integer can be written with that many bits, one of them for the sign. -/
def fitsSigned (width : Nat) (i : Int) : Bool :=
  let half : Nat := 1 <<< (width - 1)
  0 ≤ i + half && i < half

/-- Whether an integer can be written with that many bits and without a sign. -/
def fitsUnsigned (width : Nat) (i : Int) : Bool :=
  let bound : Nat := 1 <<< width
  0 ≤ i && i < bound

/-- The description of an integer: how wide it is shows when it needs more than 64 bits. -/
def describeInteger (i : Int) : Except DecodeError String :=
  let text := "integer " ++ named (Text.signedDecimal i)
  if fitsSigned 64 i || fitsUnsigned 64 i then .ok text
  else if fitsSigned 128 i then .ok (text ++ " as i128")
  else if fitsUnsigned 128 i then .ok (text ++ " as u128")
  else .error .overflow

/-- The description of a floating-point number. -/
def describeFloat : TomlFloat → Except DecodeError String
  | .notANumber => .ok ("floating point " ++ named "NaN")
  | .infinity negative => .ok ("floating point " ++ named (if negative then "-inf" else "inf"))
  | .number _ .infinite => .error .overflow
  | .number negative x => .ok ("floating point " ++ named (x.text floatLayout negative))

/-- The description of a value in a message. -/
def describe : Toml → Except DecodeError String
  | .boolean b => .ok ("boolean " ++ named (if b then "true" else "false"))
  | .integer i => describeInteger i
  | .float x => describeFloat x
  | .string cs => .ok ("string " ++ Text.quoted (String.ofList cs))
  | .datetime => .ok "map"
  | .array _ | .tables _ => .ok "sequence"
  | .table _ _ => .ok "map"

/-- The error for a value of another type than expected. -/
def mismatch {α : Type} (expected : String) (value : Toml) : Except DecodeError α :=
  match describe value with
  | .ok found => .error (.invalidType found expected)
  | .error e => .error e

/-! ## Values -/

/-- Reads a truth value. -/
def readBoolean : Toml → Except DecodeError Bool
  | .boolean b => .ok b
  | value => mismatch "a boolean" value

/-- Reads a string. -/
def readText : Toml → Except DecodeError String
  | .string cs => .ok (String.ofList cs)
  | value => mismatch "a string" value

/-- Reads a natural number of 64 bits. -/
def readWord64 : Toml → Except DecodeError UInt64
  | .integer i =>
    if fitsUnsigned 64 i then .ok (UInt64.ofNat i.toNat)
    else if fitsSigned 64 i then
      .error (.invalidValue ("integer " ++ named (Text.signedDecimal i)) "u64")
    else mismatch "u64" (.integer i)
  | value => mismatch "u64" value

/-- Reads a list of strings. -/
def readTexts : Toml → Except DecodeError (List String)
  | .array items | .tables items => items.mapM readText
  | value => mismatch "a sequence" value

/-! ## Sections -/

/-- A field of a section whose values are collected in an `α`. -/
structure Field (α : Type) where
  name : String
  read : Toml → α → Except DecodeError α
  /-- Whether the field may be missing in the form of a section as an array. -/
  optional : Bool

/-- A section: its name and its fields. -/
structure Section (α : Type) where
  name : String
  fields : List (Field α)

namespace Section

variable {α : Type}

/-- Reads the entries of a table in the given order. -/
def readEntries (s : Section α) : Entries → α → Except DecodeError α
  | [], a => .ok a
  | (key, value) :: rest, a =>
    match s.fields.find? (·.name == String.ofList key) with
    | none => .error (.unknownField (String.ofList key) (s.fields.map (·.name)))
    | some field =>
      match field.read value a with
      | .ok a => s.readEntries rest a
      | .error e => .error e

/-- Reads the elements of an array for the fields from number `index` on. -/
def readItems (s : Section α) (index : Nat) : List (Field α) → List Toml → α → Except DecodeError α
  | [], _, a => .ok a
  | field :: fields, [], a =>
    if field.optional then s.readItems (index + 1) fields [] a
    else
      .error (.invalidLength index
        ("struct " ++ s.name ++ " with " ++ Text.decimal s.fields.length ++ " elements"))
  | field :: fields, value :: values, a =>
    match field.read value a with
    | .ok a => s.readItems (index + 1) fields values a
    | .error e => .error e

/-- Entries in the order of their keys. -/
def inOrder (entries : Entries) : Entries :=
  entries.mergeSort fun a b => !List.lex b.1 a.1 fun c d => c.toNat < d.toNat

/-- The field under which the parts of a date are found. -/
def datetimeField : List Char := "$__toml_private_datetime".toList

/-- Reads a section, beginning with `a`. -/
def read (s : Section α) (value : Toml) (a : α) : Except DecodeError α :=
  match value with
  | .table _ entries => s.readEntries (inOrder entries) a
  | .array items | .tables items => s.readItems 0 s.fields items a
  | .datetime => s.readEntries [(datetimeField, value)] a
  | value => mismatch ("struct " ++ s.name) value

end Section

end AddressWatch.Toml
