/-
  AddressWatch.Json.Parser

  Reading JSON documents: a document with blanks around it is the whole text. Every nested value
  stands behind a bracket, so the length of the text bounds the nesting.
-/

import AddressWatch.Json.Literal
import AddressWatch.Json.Value

namespace AddressWatch.Json

/-- The text of a number. -/
def NumberText.chars (t : NumberText) : List Char :=
  (if t.negative then ['-'] else []) ++ t.whole
    ++ (match t.fraction with | some digits => '.' :: digits | none => [])
    ++ (match t.exponent with
      | some (down, digits) => 'e' :: (if down then '-' :: digits else digits)
      | none => [])

/-- Reads a string together with its quotes. -/
def readQuoted : List Char → Except Fault (List Char × List Char)
  | '"' :: rest => readString rest
  | [] => .error .ended
  | _ => .error .malformed

mutual

/-- Reads a value, after blanks. -/
def readValue : Nat → List Char → Except Fault (Json × List Char)
  | 0, _ => .error .ended
  | fuel + 1, cs =>
    match skipBlanks cs with
    | [] => .error .ended
    | 'n' :: rest => (readWord ['u', 'l', 'l'] rest).map (.null, ·)
    | 't' :: rest => (readWord ['r', 'u', 'e'] rest).map (.bool true, ·)
    | 'f' :: rest => (readWord ['a', 'l', 's', 'e'] rest).map (.bool false, ·)
    | '"' :: rest =>
      (readString rest).map fun (text, after) => (.string (String.ofList text), after)
    | '[' :: rest =>
      match skipBlanks rest with
      | ']' :: after => .ok (.array [], after)
      | _ => (readItems fuel rest).map fun (items, after) => (.array items, after)
    | '{' :: rest =>
      match skipBlanks rest with
      | '}' :: after => .ok (.object [], after)
      | _ => (readMembers fuel rest).map fun (members, after) => (.object members, after)
    | c :: rest =>
      if c = '-' || Text.isDecimalDigit c then
        (readNumberText true (c :: rest)).map fun (t, after) =>
          (.number (String.ofList t.chars), after)
      else .error .malformed

/-- Reads the items of an array, of which there is at least one, up to the closing bracket. -/
def readItems : Nat → List Char → Except Fault (List Json × List Char)
  | 0, _ => .error .ended
  | fuel + 1, cs => do
    let (j, cs) ← readValue fuel cs
    match skipBlanks cs with
    | ',' :: rest =>
      let (more, after) ← readItems fuel rest
      .ok (j :: more, after)
    | ']' :: after => .ok ([j], after)
    | [] => .error .ended
    | _ => .error .malformed

/-- Reads the members of an object, of which there is at least one, up to the closing brace. -/
def readMembers : Nat → List Char → Except Fault (List (String × Json) × List Char)
  | 0, _ => .error .ended
  | fuel + 1, cs => do
    let (key, cs) ← readQuoted (skipBlanks cs)
    match skipBlanks cs with
    | ':' :: rest =>
      let (j, cs) ← readValue fuel rest
      match skipBlanks cs with
      | ',' :: rest =>
        let (more, after) ← readMembers fuel rest
        .ok ((String.ofList key, j) :: more, after)
      | '}' :: after => .ok ([(String.ofList key, j)], after)
      | [] => .error .ended
      | _ => .error .malformed
    | [] => .error .ended
    | _ => .error .malformed

end

/-- The document that a text is, if it is one. -/
def parse? (cs : List Char) : Option Json :=
  match readValue (2 * cs.length + 1) cs with
  | .ok (j, rest) => if (skipBlanks rest).isEmpty then some j else none
  | .error _ => none

end AddressWatch.Json
