/-
  AddressWatch.Toml.Literal

  Keys and strings of a settings text as they are written: with escapes between double quotes, as
  they stand between single quotes, and over several lines between three quotes.
-/

import AddressWatch.Text.Numeral

namespace AddressWatch.Toml

/-- Whether a character may stand in a comment or a string: no control character but the tab. -/
def isTextChar (c : Char) : Bool := c == '\t' || (0x20 ≤ c.toNat && c.toNat ≠ 0x7F)

/-- Whether a character may stand in a key without quotes. -/
def isBareChar (c : Char) : Bool := c.isAlphanum || c == '_' || c == '-'

/-- Whether a character is a blank within a line. -/
def isBlank (c : Char) : Bool := c == ' ' || c == '\t'

/-- The text without leading blanks. -/
def skipBlanks (cs : List Char) : List Char := cs.dropWhile isBlank

/-- The rest after a line break, if there is one. -/
def lineBreak? : List Char → Option (List Char)
  | '\n' :: rest => some rest
  | '\r' :: '\n' :: rest => some rest
  | _ => none

/-! ## Escapes -/

/-- The character of an escape that is one letter. -/
def letterEscape? : Char → Option Char
  | 'b' => some '\x08'
  | 't' => some '\t'
  | 'n' => some '\n'
  | 'f' => some '\x0c'
  | 'r' => some '\r'
  | 'e' => some '\x1b'
  | '"' => some '"'
  | '\\' => some '\\'
  | _ => none

/-- The number of hexadecimal digits of an escape that is a number. -/
def escapeDigits? : Char → Option Nat
  | 'x' => some 2
  | 'u' => some 4
  | 'U' => some 8
  | _ => none

/-- The character of a code point, if there is one. -/
def charOf? (n : Nat) : Option Char := if n.isValidChar then some (Char.ofNat n) else none

/-- Reads an escape behind its backslash: the character and the number of characters read. -/
def readEscape : List Char → Option (Char × Nat)
  | [] => none
  | c :: rest =>
    match letterEscape? c with
    | some d => some (d, 1)
    | none => do
      let count ← escapeDigits? c
      if rest.length < count then none
      else
        let d ← (Text.readNumeral 16 (rest.take count)).bind charOf?
        some (d, count + 1)

/-! ## Strings on one line -/

/-- Reads a string between single quotes behind its opening quote. -/
def readLiteral : List Char → Option (List Char × List Char)
  | [] => none
  | '\'' :: rest => some ([], rest)
  | c :: rest =>
    if isTextChar c then (readLiteral rest).map fun (cs, after) => (c :: cs, after) else none

/-- Reads a string between double quotes behind its opening quote. -/
def readBasic : List Char → Option (List Char × List Char)
  | [] => none
  | '"' :: rest => some ([], rest)
  | '\\' :: rest => do
    let (c, count) ← readEscape rest
    let (cs, after) ← readBasic (rest.drop count)
    some (c :: cs, after)
  | c :: rest =>
    if isTextChar c then (readBasic rest).map fun (cs, after) => (c :: cs, after) else none
termination_by cs => cs.length
decreasing_by all_goals simp; try omega

/-! ## Strings over several lines -/

/-- The end of a string between three quotes: up to two more quotes belong to it. -/
def closing? (quote : Char) (cs : List Char) : Option (List Char × List Char) :=
  let quotes := (cs.takeWhile (· == quote)).length
  if quotes < 3 then none
  else if quotes ≤ 5 then some (List.replicate (quotes - 3) quote, cs.drop quotes)
  else some ([quote, quote], cs.drop 5)

/-- Reads a string between three single quotes behind its opening quotes. -/
def readLongLiteral : List Char → Option (List Char × List Char)
  | [] => none
  | c :: rest =>
    match closing? '\'' (c :: rest) with
    | some ended => some ended
    | none =>
      if isTextChar c || c == '\n' || (c == '\r' && rest.head? == some '\n') then
        (readLongLiteral rest).map fun (cs, after) => (c :: cs, after)
      else none

/-- The rest after the blanks and line breaks at its start. -/
def skipLines : List Char → List Char
  | '\n' :: rest => skipLines rest
  | '\r' :: '\n' :: rest => skipLines rest
  | c :: rest => if isBlank c then skipLines rest else c :: rest
  | [] => []

theorem length_skipLines_le (cs : List Char) : (skipLines cs).length ≤ cs.length := by
  fun_induction skipLines cs <;> simp_all <;> omega

/-- Reads a string between three double quotes behind its opening quotes. A backslash at the end
of a line joins it with the next text. -/
def readLongBasic : List Char → Option (List Char × List Char)
  | [] => none
  | c :: rest =>
    match closing? '"' (c :: rest) with
    | some ended => some ended
    | none =>
      if c == '\\' then
        if (lineBreak? (skipBlanks rest)).isSome then readLongBasic (skipLines rest)
        else do
          let (d, count) ← readEscape rest
          let (cs, after) ← readLongBasic (rest.drop count)
          some (d :: cs, after)
      else if isTextChar c || c == '\n' || (c == '\r' && rest.head? == some '\n') then
        (readLongBasic rest).map fun (cs, after) => (c :: cs, after)
      else none
termination_by cs => cs.length
decreasing_by
  · have := length_skipLines_le rest
    simp only [List.length_cons]; omega
  · simp only [List.length_drop, List.length_cons]; omega
  · simp only [List.length_cons]; omega

/-- The text without a line break at its start. -/
def dropLineBreak (cs : List Char) : List Char := (lineBreak? cs).getD cs

/-- Reads a string, if one begins here: `none` if none begins, `some none` if it is malformed. -/
def readString? : List Char → Option (Option (List Char × List Char))
  | '"' :: '"' :: '"' :: rest => some (readLongBasic (dropLineBreak rest))
  | '\'' :: '\'' :: '\'' :: rest => some (readLongLiteral (dropLineBreak rest))
  | '"' :: rest => some (readBasic rest)
  | '\'' :: rest => some (readLiteral rest)
  | _ => none

/-! ## Keys -/

/-- Reads one key. -/
def readKey : List Char → Option (List Char × List Char)
  | '"' :: rest => readBasic rest
  | '\'' :: rest => readLiteral rest
  | cs =>
    let bare := cs.takeWhile isBareChar
    if bare.isEmpty then none else some (bare, cs.drop bare.length)

/-- Reads keys with points between them, at most `fuel` of them, and the blanks around them. -/
def readKeys : Nat → List Char → Option (List (List Char) × List Char)
  | 0, _ => none
  | fuel + 1, cs => do
    let (key, after) ← readKey (skipBlanks cs)
    match skipBlanks after with
    | '.' :: rest =>
      let (keys, after) ← readKeys fuel rest
      some (key :: keys, after)
    | rest => some ([key], rest)

/-- Reads a path of keys and the blanks around it. -/
def readPath (cs : List Char) : Option (List (List Char) × List Char) :=
  readKeys (cs.length + 1) cs

end AddressWatch.Toml
