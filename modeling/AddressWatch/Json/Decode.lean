/-
  AddressWatch.Json.Decode

  Reading JSON texts as values of given types, piece by piece: the first thing that is wrong is
  the error, whether it is a value of another type or a text that is not JSON.
-/

import AddressWatch.Json.Literal
import AddressWatch.Binary64.Shortest
import AddressWatch.Text.Quoted

namespace AddressWatch.Json

open Text

/-- A value that stands where another type was asked for. -/
inductive Found where
  | integer (i : Int)
  | float (negative : Bool) (magnitude : Binary64)
  | string (text : String)
  | bool (b : Bool)
  | null
  | sequence
  | map
  deriving DecidableEq

/-- Floating-point numbers are written with an exponent from 10^16 on and below 10^-5. -/
def floatLayout : Binary64.Layout := ⟨true, 16, 4⟩

/-- What was found, in words. -/
def Found.text : Found → String
  | .integer i => "integer `" ++ signedDecimal i ++ "`"
  | .float negative x => "floating point `" ++ x.text floatLayout negative ++ "`"
  | .string s => "string " ++ quoted s
  | .bool b => "boolean `" ++ (if b then "true" else "false") ++ "`"
  | .null => "null"
  | .sequence => "sequence"
  | .map => "map"

/-- Why a JSON text could not be read as a value. -/
inductive DecodeError where
  /-- The text is not JSON, or not the kind of JSON that a value can start with. -/
  | fault (fault : Fault)
  | missingField (name : String)
  | duplicateField (name : String)
  | invalidType (found : Found) (expected : String)
  | invalidValue (found : Found) (expected : String)
  | invalidLength (length : Nat) (expected : String)
  | unknownVariant (name : String) (first second : String)
  | invalidAddress
  deriving DecidableEq

namespace DecodeError

/-- What is wrong with the data; nothing where the text itself is wrong. -/
def message? : DecodeError → Option String
  | .fault _ => none
  | .missingField name => some ("missing field `" ++ name ++ "`")
  | .duplicateField name => some ("duplicate field `" ++ name ++ "`")
  | .invalidType found expected =>
    some ("invalid type: " ++ found.text ++ ", expected " ++ expected)
  | .invalidValue found expected =>
    some ("invalid value: " ++ found.text ++ ", expected " ++ expected)
  | .invalidLength length expected =>
    some ("invalid length " ++ decimal length ++ ", expected " ++ expected)
  | .unknownVariant name first second =>
    some ("unknown variant `" ++ name ++ "`, expected `" ++ first ++ "` or `" ++ second ++ "`")
  | .invalidAddress => some "invalid IP address syntax"

end DecodeError

/-- An error of the text as an error of reading. -/
def ofFault {α : Type} : Except Fault α → Except DecodeError α
  | .ok a => .ok a
  | .error f => .error (.fault f)

/-- The error for the value at the start of `cs`, which is not of the expected type. -/
def mismatch (expected : String) (cs : List Char) : DecodeError :=
  match cs with
  | [] => .fault .malformed
  | c :: rest =>
    let found : Except Fault Found :=
      if c = 'n' then (readWord ['u', 'l', 'l'] rest).map fun _ => .null
      else if c = 't' then (readWord ['r', 'u', 'e'] rest).map fun _ => .bool true
      else if c = 'f' then (readWord ['a', 'l', 's', 'e'] rest).map fun _ => .bool false
      else if c = '"' then (readString rest).map fun (s, _) => .string (String.ofList s)
      else if c = '[' then .ok .sequence
      else if c = '\x7b' then .ok .map
      else if c = '-' || isDecimalDigit c then
        (readNumber cs).map fun (n, _) =>
          match n with
          | .integer i => .integer i
          | .float negative x => .float negative x
      else .error .malformed
    match found with
    | .ok f => .invalidType f expected
    | .error f => .fault f

/-- A step that reads a value from the front of a text and leaves what follows it. -/
abbrev Reader (α : Type) := List Char → Except DecodeError (α × List Char)

/-- Reads a string. -/
def decodeString (expected : String) : Reader (List Char) := fun cs =>
  match skipBlanks cs with
  | [] => .error (.fault .ended)
  | '"' :: rest => ofFault (readString rest)
  | other => .error (mismatch expected other)

/-- Reads a truth value. -/
def decodeBool (cs : List Char) : Except DecodeError (Bool × List Char) :=
  match skipBlanks cs with
  | [] => .error (.fault .ended)
  | 't' :: rest => ofFault ((readWord ['r', 'u', 'e'] rest).map (true, ·))
  | 'f' :: rest => ofFault ((readWord ['a', 'l', 's', 'e'] rest).map (false, ·))
  | other => .error (mismatch "a boolean" other)

/-- Reads a number up to 255. -/
def decodeByte (cs : List Char) : Except DecodeError (UInt8 × List Char) :=
  match skipBlanks cs with
  | [] => .error (.fault .ended)
  | c :: rest =>
    if c = '-' || isDecimalDigit c then
      match readNumber (c :: rest) with
      | .error f => .error (.fault f)
      | .ok (.integer i, after) =>
        if 0 ≤ i ∧ i ≤ 255 then .ok (UInt8.ofNat i.toNat, after)
        else .error (.invalidValue (.integer i) "u8")
      | .ok (.float negative x, _) => .error (.invalidType (.float negative x) "u8")
    else .error (mismatch "u8" (c :: rest))

/-- Reads the word `null` where a value without content is asked for. -/
def decodeUnit (cs : List Char) : Except DecodeError (Unit × List Char) :=
  match skipBlanks cs with
  | [] => .error (.fault .ended)
  | 'n' :: rest => ofFault ((readWord ['u', 'l', 'l'] rest).map ((), ·))
  | other => .error (mismatch "unit" other)

mutual

/-- Skips any value. -/
def skipValue : Nat → List Char → Except Fault (List Char)
  | 0, _ => .error .ended
  | fuel + 1, cs =>
    match skipBlanks cs with
    | [] => .error .ended
    | c :: rest =>
      if c = 'n' then readWord ['u', 'l', 'l'] rest
      else if c = 't' then readWord ['r', 'u', 'e'] rest
      else if c = 'f' then readWord ['a', 'l', 's', 'e'] rest
      else if c = '"' then skipString rest
      else if c = '[' then
        match skipBlanks rest with
        | [] => .error .ended
        | ']' :: after => .ok after
        | _ => skipItems fuel rest
      else if c = '\x7b' then
        match skipBlanks rest with
        | [] => .error .ended
        | '\x7d' :: after => .ok after
        | _ => skipMembers fuel rest
      else if c = '-' || isDecimalDigit c then
        (readNumberText false (c :: rest)).map fun (_, after) => after
      else .error .malformed

/-- Skips the items of an array, of which there is at least one, and the closing bracket. -/
def skipItems : Nat → List Char → Except Fault (List Char)
  | 0, _ => .error .ended
  | fuel + 1, cs =>
    match skipValue fuel cs with
    | .error f => .error f
    | .ok cs =>
      match skipBlanks cs with
      | [] => .error .ended
      | ',' :: rest => skipItems fuel rest
      | ']' :: after => .ok after
      | _ => .error .malformed

/-- Skips the members of an object, of which there is at least one, and the closing brace. -/
def skipMembers : Nat → List Char → Except Fault (List Char)
  | 0, _ => .error .ended
  | fuel + 1, cs =>
    match skipBlanks cs with
    | [] => .error .ended
    | '"' :: rest =>
      match skipString rest with
      | .error f => .error f
      | .ok cs =>
        match skipBlanks cs with
        | [] => .error .ended
        | ':' :: rest =>
          match skipValue fuel rest with
          | .error f => .error f
          | .ok cs =>
            match skipBlanks cs with
            | [] => .error .ended
            | ',' :: rest => skipMembers fuel rest
            | '\x7d' :: after => .ok after
            | _ => .error .malformed
        | _ => .error .malformed
    | _ => .error .malformed

end

/-- Skips a value of any kind. -/
def skipAny (cs : List Char) : Except DecodeError (List Char) :=
  ofFault (skipValue (2 * cs.length + 1) cs)

/-- Reads the colon between a key and its value. -/
def decodeColon (cs : List Char) : Except DecodeError (List Char) :=
  match skipBlanks cs with
  | [] => .error (.fault .ended)
  | ':' :: rest => .ok rest
  | _ => .error (.fault .malformed)

/-- Reads up to the next key of an object: its text and what follows it, or what follows the closing
brace. `first` says that no key has been read. -/
def decodeKey (first : Bool) (cs : List Char) :
    Except DecodeError (Option (List Char) × List Char) :=
  let key (cs : List Char) : Except DecodeError (Option (List Char) × List Char) :=
    match readString cs with
    | .error f => .error (.fault f)
    | .ok (k, rest) => .ok (some k, rest)
  match skipBlanks cs with
  | [] => .error (.fault .ended)
  | '\x7d' :: rest => .ok (none, rest)
  | ',' :: rest =>
    if first then .error (.fault .malformed)
    else
      match skipBlanks rest with
      | [] => .error (.fault .ended)
      | '"' :: rest => key rest
      | _ => .error (.fault .malformed)
  | '"' :: rest => if first then key rest else .error (.fault .malformed)
  | _ => .error (.fault .malformed)

/-- Reads up to the next item of an array: whether there is one, and the text from it on. Where
there is none the text still starts with the closing bracket. -/
def decodeNext (first : Bool) (cs : List Char) : Except DecodeError (Bool × List Char) :=
  match skipBlanks cs with
  | [] => .error (.fault .ended)
  | ']' :: rest => .ok (false, ']' :: rest)
  | c :: rest =>
    if first then .ok (true, c :: rest)
    else if c = ',' then
      match skipBlanks rest with
      | [] => .error (.fault .ended)
      | ']' :: _ => .error (.fault .malformed)
      | other => .ok (true, other)
    else .error (.fault .malformed)

/-- Reads the closing bracket of an array. -/
def decodeEnd (cs : List Char) : Except DecodeError (List Char) :=
  match skipBlanks cs with
  | [] => .error (.fault .ended)
  | ']' :: rest => .ok rest
  | _ => .error (.fault .malformed)

/-- Accepts a value only at the end of the text. -/
def atEnd {α : Type} (r : Except DecodeError (α × List Char)) : Except DecodeError α :=
  match r with
  | .error e => .error e
  | .ok (a, rest) => if (skipBlanks rest).isEmpty then .ok a else .error (.fault .malformed)

end AddressWatch.Json
