/-
  AddressWatch.Text.Quoted

  Text in double quotes as messages show it: quotes, backslashes and unprintable characters are
  escaped.
-/

import AddressWatch.Unicode.Database

namespace AddressWatch.Text

/-- The characters that stand for `c` between quotes. -/
def showChar (c : Char) : List Char :=
  if c = '"' then ['\\', '"']
  else if c = '\\' then ['\\', '\\']
  else if c = '\n' then ['\\', 'n']
  else if c = '\r' then ['\\', 'r']
  else if c = '\t' then ['\\', 't']
  else if c = '\x00' then ['\\', '0']
  else if c.toNat < 127 ∧ 32 ≤ c.toNat then [c]
  else if Unicode.unprintable.has c.toNat then
    ['\\', 'u', '\x7b'] ++ numeral 16 c.toNat ++ ['\x7d']
  else [c]

/-- The text in quotes. -/
def quoted (text : String) : String :=
  String.ofList ('"' :: text.toList.flatMap showChar ++ ['"'])

end AddressWatch.Text
