/-
  AddressWatch.Json.Value

  JSON documents and their compact text: no blanks, members in order, characters beyond ASCII as
  they are, and control characters, quotes and backslashes escaped.
-/

import AddressWatch.Text.Numeral

namespace AddressWatch

/-- A JSON document. Members of an object keep their order. -/
inductive Json where
  | null
  | bool (b : Bool)
  /-- A number, by its text. -/
  | number (literal : String)
  | string (text : String)
  | array (items : List Json)
  | object (members : List (String × Json))

namespace Json

/-- The document of an integer. -/
def int (i : Int) : Json := .number (Text.signedDecimal i)

/-- The characters that stand for `c` in a JSON string. -/
def escapeChar (c : Char) : List Char :=
  if c = '"' then ['\\', '"']
  else if c = '\\' then ['\\', '\\']
  else if c = '\x08' then ['\\', 'b']
  else if c = '\t' then ['\\', 't']
  else if c = '\n' then ['\\', 'n']
  else if c = '\x0c' then ['\\', 'f']
  else if c = '\r' then ['\\', 'r']
  else if c.toNat < 0x20 then
    ['\\', 'u', '0', '0', Text.digitChar (c.toNat / 16), Text.digitChar (c.toNat % 16)]
  else [c]

/-- A JSON string. -/
def stringChars (text : String) : List Char := '"' :: text.toList.flatMap escapeChar ++ ['"']

mutual

/-- The compact text of a document. -/
def chars : Json → List Char
  | .null => ['n', 'u', 'l', 'l']
  | .bool true => ['t', 'r', 'u', 'e']
  | .bool false => ['f', 'a', 'l', 's', 'e']
  | .number literal => literal.toList
  | .string text => stringChars text
  | .array items => '[' :: itemsChars items ++ [']']
  | .object members => '{' :: membersChars members ++ ['}']

/-- The texts of the items with commas between them. -/
def itemsChars : List Json → List Char
  | [] => []
  | [j] => chars j
  | j :: rest => chars j ++ ',' :: itemsChars rest

/-- The texts of the members with commas between them. -/
def membersChars : List (String × Json) → List Char
  | [] => []
  | [(key, j)] => stringChars key ++ ':' :: chars j
  | (key, j) :: rest => stringChars key ++ ':' :: chars j ++ ',' :: membersChars rest

end

/-- The compact text of a document. -/
def text (j : Json) : String := String.ofList j.chars

end Json

end AddressWatch
