/-
  AddressWatch.Pattern.Cursor

  The place a pattern is read at, and the smaller things read there: escapes, numbers, flags and
  names. Where the verbose flag is on, blanks and comments between the parts of a pattern are
  skipped.
-/

import AddressWatch.Pattern.Expr
import AddressWatch.Unicode.Database

namespace AddressWatch.Pattern

open Text

/-- What is left of a pattern, whether blanks and comments are skipped, and the group names so
far. -/
structure Cursor where
  rest : List Char
  verbose : Bool
  names : List (List Char)

/-- Whether `c` is white space. -/
def isBlank (c : Char) : Bool := Unicode.blanks.has c.toNat

/-- The text after leading blanks and comments. -/
def skipBlanks : List Char → List Char
  | [] => []
  | c :: rest =>
    if isBlank c then skipBlanks rest
    else if c = '#' then skipComment rest
    else c :: rest
where
  /-- The text after a comment's line and the blanks that follow. -/
  skipComment : List Char → List Char
    | [] => []
    | c :: rest => if c = '\n' then skipBlanks rest else skipComment rest

namespace Cursor

/-- The cursor at `rest`. -/
def moveTo (c : Cursor) (rest : List Char) : Cursor := { c with rest }

/-- The cursor after blanks and comments, where they are skipped. -/
def skip (c : Cursor) : Cursor := if c.verbose then c.moveTo (skipBlanks c.rest) else c

/-- The cursor one character further, after blanks and comments. -/
def advance (c : Cursor) : Cursor := (c.moveTo c.rest.tail).skip

/-- The next character. -/
def peek? (c : Cursor) : Option Char := c.rest.head?

/-- The character after the next one, blanks and comments between them aside. -/
def peekAfter? (c : Cursor) : Option Char := c.advance.peek?

/-- The characters from here on that satisfy `p`, and the cursor after them. -/
def takeWhile (p : Char → Bool) : Nat → Cursor → List Char × Cursor
  | 0, c => ([], c)
  | fuel + 1, c =>
    match c.peek? with
    | none => ([], c)
    | some x =>
      if p x then
        let (more, c) := takeWhile p fuel c.advance
        (x :: more, c)
      else ([], c)

end Cursor

/-- Reads a decimal number of a repetition count, with blanks around it. -/
def readCount (c : Cursor) : Cursor × Option (Option Nat) :=
  let c := c.moveTo (c.rest.dropWhile isBlank)
  let (digits, c) := c.takeWhile isDecimalDigit c.rest.length
  let c := c.moveTo (c.rest.dropWhile isBlank)
  if digits.isEmpty then (c, some none)
  else (c, (readNumeral 10 digits).bind fun n => if n < UInt32.size then some (some n) else none)

/-- The bounds between braces; the cursor stands on the opening brace. An upper bound may be left
out, a lower one may not. -/
def readBounds (c : Cursor) : Option ((Nat × Option Nat) × Cursor) := do
  let c := c.advance
  let _ ← c.peek?
  let (c, least) := readCount c
  let x ← c.peek?
  let (least, most, c) ←
    if x = ',' then
      let c := c.advance
      let y ← c.peek?
      if y = '}' then
        let n ← least.bind id
        some (n, none, c)
      else
        let n ← least.bind id
        let (c, most) := readCount c
        let m ← most.bind id
        some (n, some m, c)
    else
      let n ← least.bind id
      some (n, some n, c)
  let close ← c.peek?
  if close == '}' && most.all (least ≤ ·) then
    some ((least, most), c.advance)
  else none

/-- Drops the question mark that makes a repetition lazy. -/
def skipLazy (c : Cursor) : Cursor :=
  match c.rest with
  | '?' :: rest => c.moveTo rest
  | _ => c

/-- The flag with the given letter. -/
def flag? : Char → Option Flag
  | 'i' => some .caseInsensitive
  | 'm' => some .multiLine
  | 's' => some .dotMatchesNewline
  | 'U' => some .swapGreed
  | 'u' => some .unicode
  | 'R' => some .crlf
  | 'x' => some .verbose
  | _ => none

/-- Reads flag items up to a colon or a closing parenthesis, which is given back with them. No
item may stand twice and none may end the list with a negation. -/
def readFlags (seen : List FlagItem) : List Char → Option (List FlagItem × Char × List Char)
  | [] => none
  | c :: rest =>
    if c = ':' ∨ c = ')' then
      if seen.head? = some .negation then none else some (seen.reverse, c, rest)
    else do
      let item ← if c = '-' then some FlagItem.negation else (flag? c).map .flag
      if item ∈ seen then none else readFlags (item :: seen) rest

/-- Whether `c` may stand in a group name, at its start or further on. -/
def isNameChar (first : Bool) (c : Char) : Bool :=
  c == '_' || Unicode.alphabetic.has c.toNat
    || (!first && (c == '.' || c == '[' || c == ']' || numbers.has c.toNat))
where
  /-- Characters that count. -/
  numbers : Unicode.CodeSet := Unicode.unionOf ["nd", "nl", "no"]

/-- Reads a group name up to its closing angle bracket. -/
def readName (cs : List Char) : Option (List Char × List Char) :=
  let name := cs.takeWhile (· ≠ '>')
  match cs.dropWhile (· ≠ '>'), name with
  | _ :: rest, first :: more =>
    if isNameChar true first && more.all (isNameChar false) then some (name, rest) else none
  | _, _ => none

/-- The character of a code point. -/
def scalar? (n : Nat) : Option Char :=
  if n < 0xD800 ∨ (0xDFFF < n ∧ n ≤ Unicode.maxCode) then some (Char.ofNat n) else none

/-- Whether `c` is a hexadecimal digit. -/
def isHexDigit (c : Char) : Bool := (digitValue? 16 c).isSome

/-- Reads `n` hexadecimal digits; the cursor stands on the first of them. -/
def readHexDigits (c : Cursor) : Nat → Option (List Char × Cursor)
  | 0 => some ([], c)
  | n + 1 => do
    let d ← c.peek?
    if isHexDigit d then
      let (more, c) ← readHexDigits c.advance n
      some (d :: more, c)
    else none

/-- Reads a character by its number; the cursor stands on the letter that says how many digits there
are, unless braces hold them. -/
def readHex (letter : Char) (c : Cursor) : Option (Literal × Cursor) := do
  let c := c.advance
  let next ← c.peek?
  if next = '{' then
    let c := c.advance
    let (digits, c) := c.takeWhile (· ≠ '}') c.rest.length
    let _ ← c.peek?
    if digits.all isHexDigit then
      let x ← readNumeral 16 digits >>= scalar?
      some (⟨x, false⟩, c.advance)
    else none
  else
    let (digits, c) ← readHexDigits c (match letter with | 'x' => 2 | 'u' => 4 | _ => 8)
    let x ← readNumeral 16 digits >>= scalar?
    some (⟨x, letter == 'x'⟩, c)

/-- Splits `cs` at the first place where `mark` stands. -/
def splitAtMark? (mark : List Char) : List Char → Option (List Char × List Char)
  | [] => none
  | c :: rest =>
    if mark.isPrefixOf (c :: rest) then some ([], (c :: rest).drop mark.length)
    else (splitAtMark? mark rest).map fun (a, b) => (c :: a, b)

/-- What the text of a Unicode class in braces asks for. -/
def propertyQuery (text : List Char) : PropertyQuery :=
  match splitAtMark? ['!', '='] text with
  | some (name, value) => .valued false name value
  | none =>
    match splitAtMark? [':'] text with
    | some (name, value) => .valued true name value
    | none =>
      match splitAtMark? ['='] text with
      | some (name, value) => .valued true name value
      | none => .named text

/-- Reads a Unicode class; the cursor stands on its letter. -/
def readProperty (c : Cursor) : Option (PropertyQuery × Cursor) := do
  let c := c.advance
  let next ← c.peek?
  if next = '{' then
    let c := c.advance
    let (text, c) := c.takeWhile (· ≠ '}') c.rest.length
    let _ ← c.peek?
    some (propertyQuery text, c.moveTo c.rest.tail)
  else if next = '\\' then none
  else some (.named [next], c.advance)

/-- What an escape, or a character that stands for itself, is read as. -/
inductive Item where
  | literal (lit : Literal)
  | anchor (anchor : Anchor)
  | letter (negated : Bool) (cls : LetterClass)
  | property (negated : Bool) (query : PropertyQuery)
  | dot

/-- Characters with a meaning in patterns, which an escape takes away. -/
def isMeta (c : Char) : Bool :=
  "\\.+*?()|[]\x7b\x7d^$#&-~".toList.contains c

/-- ASCII characters that may be escaped without need. -/
def isEscapable (c : Char) : Bool := c.toNat < 128 && !c.isAlphanum && c != '<' && c != '>'

/-- The word boundary named between braces after a boundary escape. No braces, or braces that do
not start with a letter or a hyphen, name none. -/
def readBoundaryName (c : Cursor) : Option (Anchor × Cursor) :=
  match c.peek? with
  | some '{' =>
    let inner := c.advance
    match inner.peek? with
    | none => none
    | some x =>
      if x.isAlpha || x == '-' then
        let (name, inner) := inner.takeWhile (fun y => y.isAlpha || y == '-') inner.rest.length
        match inner.peek? with
        | some '}' =>
          let after := inner.moveTo inner.rest.tail
          match String.ofList name with
          | "start" => some (.wordStart, after)
          | "end" => some (.wordEnd, after)
          | "start-half" => some (.wordStartHalf, after)
          | "end-half" => some (.wordEndHalf, after)
          | _ => none
        | _ => none
      else some (.wordBoundary, c)
  | _ => some (.wordBoundary, c)

/-- The control character or position that a letter names after a backslash. -/
def controlEscape? : Char → Option Item
  | 'a' => some (.literal ⟨'\x07', false⟩)
  | 'f' => some (.literal ⟨'\x0c', false⟩)
  | 't' => some (.literal ⟨'\t', false⟩)
  | 'n' => some (.literal ⟨'\n', false⟩)
  | 'r' => some (.literal ⟨'\r', false⟩)
  | 'v' => some (.literal ⟨'\x0b', false⟩)
  | 'A' => some (.anchor .textStart)
  | 'z' => some (.anchor .textEnd)
  | 'B' => some (.anchor .notWordBoundary)
  | '<' => some (.anchor .wordStart)
  | '>' => some (.anchor .wordEnd)
  | _ => none

/-- Reads an escape; the cursor stands on its backslash. -/
def readEscape (c : Cursor) : Option (Item × Cursor) := do
  let c := c.moveTo c.rest.tail
  let x ← c.peek?
  match x with
  | 'x' | 'u' | 'U' =>
    let (lit, c) ← readHex x c
    some (.literal lit, c)
  | 'p' | 'P' =>
    let (query, c) ← readProperty c
    some (.property (x == 'P') query, c)
  | 'd' => some (.letter false .digit, c.moveTo c.rest.tail)
  | 'D' => some (.letter true .digit, c.moveTo c.rest.tail)
  | 's' => some (.letter false .space, c.moveTo c.rest.tail)
  | 'S' => some (.letter true .space, c.moveTo c.rest.tail)
  | 'w' => some (.letter false .word, c.moveTo c.rest.tail)
  | 'W' => some (.letter true .word, c.moveTo c.rest.tail)
  | 'b' =>
    let (anchor, c) ← readBoundaryName (c.moveTo c.rest.tail)
    some (.anchor anchor, c)
  | _ =>
    let after := c.moveTo c.rest.tail
    if isMeta x || isEscapable x then some (.literal ⟨x, false⟩, after)
    else (controlEscape? x).map (·, after)

end AddressWatch.Pattern
