/-
  AddressWatch.Toml.Parser

  Reading a settings text: lines with headers, lines that give keys their values, comments and
  blank lines.
-/

import AddressWatch.Toml.Literal
import AddressWatch.Toml.Scalar

namespace AddressWatch.Toml

/-! ## Values -/

/-- The rest behind blanks, line breaks and comments; `none` for a malformed comment. -/
def skipFill (inComment : Bool) : List Char → Option (List Char)
  | [] => some []
  | '\n' :: rest => skipFill false rest
  | '\r' :: '\n' :: rest => skipFill false rest
  | c :: rest =>
    if inComment then (if isTextChar c then skipFill true rest else none)
    else if isBlank c then skipFill false rest
    else if c = '#' then skipFill true rest
    else some (c :: rest)

/-- How deep arrays and inline tables may lie in each other. -/
def maxDepth : Nat := 80

mutual

/-- Reads a value that lies `depth` arrays and inline tables deep. -/
def readValue : Nat → Nat → List Char → Option (Toml × List Char)
  | 0, _, _ => none
  | fuel + 1, depth, cs =>
    match readString? cs with
    | some literal => literal.map fun (text, rest) => (.string text, rest)
    | none =>
      match cs with
      | '[' :: rest =>
        if depth < maxDepth then
          (readItems fuel (depth + 1) rest).map fun (items, rest) => (.array items, rest)
        else none
      | '\x7b' :: rest =>
        if depth < maxDepth then
          (readMembers fuel (depth + 1) [] rest).map fun (entries, rest) =>
            (.table .inline entries, rest)
        else none
      | _ =>
        let (word, rest) := readWord cs
        (scalar? word).map fun value => (value, rest)

/-- Reads the elements of an array up to its bracket. -/
def readItems : Nat → Nat → List Char → Option (List Toml × List Char)
  | 0, _, _ => none
  | fuel + 1, depth, cs =>
    match skipFill false cs with
    | none => none
    | some (']' :: rest) => some ([], rest)
    | some cs =>
      match readValue fuel depth cs with
      | none => none
      | some (value, rest) =>
        match skipFill false rest with
        | some (']' :: rest) => some ([value], rest)
        | some (',' :: rest) =>
          (readItems fuel depth rest).map fun (items, rest) => (value :: items, rest)
        | _ => none

/-- Reads the entries of an inline table up to its brace, after the given ones. -/
def readMembers : Nat → Nat → Entries → List Char → Option (Entries × List Char)
  | 0, _, _, _ => none
  | fuel + 1, depth, entries, cs =>
    match skipFill false cs with
    | none => none
    | some ('\x7d' :: rest) => some (entries, rest)
    | some cs =>
      match readPath cs with
      | some (path, '=' :: rest) =>
        match readValue fuel depth (skipBlanks rest) with
        | none => none
        | some (value, rest) =>
          match assign path value .opened entries with
          | some (.table _ entries) =>
            match skipFill false rest with
            | some ('\x7d' :: rest) => some (entries, rest)
            | some (',' :: rest) => readMembers fuel depth entries rest
            | _ => none
          | _ => none
      | _ => none

end

/-! ## Lines -/

/-- Reads a header behind its bracket. -/
def readHeader (cs : List Char) : Option (Statement × List Char) :=
  match cs with
  | '[' :: rest =>
    match readPath rest with
    | some (path, ']' :: ']' :: rest) => some (.itemHeader path, rest)
    | _ => none
  | _ =>
    match readPath cs with
    | some (path, ']' :: rest) => some (.header path, rest)
    | _ => none

/-- Reads a key, its equals sign and its value. -/
def readAssignment (cs : List Char) : Option (Statement × List Char) :=
  match readPath cs with
  | some (path, '=' :: rest) =>
    (readValue (2 * rest.length + 2) 0 (skipBlanks rest)).map fun (value, rest) =>
      (.assignment path value, rest)
  | _ => none

/-- Reads one statement. -/
def readStatement (cs : List Char) : Option (Statement × List Char) :=
  match cs with
  | '[' :: rest => readHeader rest
  | _ => readAssignment cs

/-- The rest behind the end of a line: blanks, a comment if there is one, and a line break or the
end of the text. -/
def endLine? (cs : List Char) : Option (List Char) :=
  let cs := skipBlanks cs
  let cs := match cs with
    | '#' :: rest => rest.dropWhile isTextChar
    | _ => cs
  if cs.isEmpty then some [] else lineBreak? cs

/-- Reads the statements of a text, one on a line. -/
def readStatements : Nat → List Char → Option (List Statement)
  | 0, cs => if cs.isEmpty then some [] else none
  | fuel + 1, cs =>
    if cs.isEmpty then some []
    else
      match endLine? cs with
      | some rest => readStatements fuel rest
      | none => do
        let (statement, rest) ← readStatement (skipBlanks cs)
        let rest ← endLine? rest
        let statements ← readStatements fuel rest
        some (statement :: statements)

/-- The text without a byte order mark at its start. -/
def dropByteOrderMark : List Char → List Char
  | c :: rest => if c.toNat = 0xFEFF then rest else c :: rest
  | [] => []

/-- The table of a settings text, if it is one. -/
def parse? (cs : List Char) : Option Entries :=
  let cs := dropByteOrderMark cs
  (readStatements cs.length cs).bind ofStatements?

end AddressWatch.Toml
