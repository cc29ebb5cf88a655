/-
  AddressWatch.Pattern.Compile

  Settling the meaning of a written pattern. Flags hold from where they are set to the end of the
  group around them. Case is folded before a class is negated. Where Unicode is off, classes are
  sets of bytes; one that could match a byte of a longer character is refused, because matches are
  whole characters.
-/

import AddressWatch.Pattern.Parser
import AddressWatch.Pattern.Size

namespace AddressWatch.Pattern

open Unicode

/-- The flags in force. -/
structure Flags where
  caseInsensitive : Bool := false
  multiLine : Bool := false
  dotMatchesNewline : Bool := false
  unicode : Bool := true
  crlf : Bool := false

namespace Flags

/-- The flags after the items have been applied. -/
def apply (f : Flags) (items : List FlagItem) : Flags where
  caseInsensitive := (flagState? .caseInsensitive items).getD f.caseInsensitive
  multiLine := (flagState? .multiLine items).getD f.multiLine
  dotMatchesNewline := (flagState? .dotMatchesNewline items).getD f.dotMatchesNewline
  unicode := (flagState? .unicode items).getD f.unicode
  crlf := (flagState? .crlf items).getD f.crlf

/-- The set with the other cases of its characters, where case does not matter. -/
def fold (f : Flags) (s : CodeSet) : CodeSet :=
  if f.caseInsensitive then (if f.unicode then foldCase s else foldAsciiCase s) else s

/-- The complement of a set; without Unicode it would hold bytes of longer characters. -/
def negate (f : Flags) (s : CodeSet) : Option CodeSet :=
  if f.unicode then some (CodeSet.complement s) else none

end Flags

/-- The characters of the ASCII classes. -/
def posixSet : String → CodeSet
  | "alnum" => [⟨0x30, 0x39⟩, ⟨0x41, 0x5A⟩, ⟨0x61, 0x7A⟩]
  | "alpha" => [⟨0x41, 0x5A⟩, ⟨0x61, 0x7A⟩]
  | "ascii" => [⟨0, 0x7F⟩]
  | "blank" => [⟨9, 9⟩, ⟨0x20, 0x20⟩]
  | "cntrl" => [⟨0, 0x1F⟩, ⟨0x7F, 0x7F⟩]
  | "digit" => [⟨0x30, 0x39⟩]
  | "graph" => [⟨0x21, 0x7E⟩]
  | "lower" => [⟨0x61, 0x7A⟩]
  | "print" => [⟨0x20, 0x7E⟩]
  | "punct" => [⟨0x21, 0x2F⟩, ⟨0x3A, 0x40⟩, ⟨0x5B, 0x60⟩, ⟨0x7B, 0x7E⟩]
  | "space" => [⟨9, 13⟩, ⟨0x20, 0x20⟩]
  | "upper" => [⟨0x41, 0x5A⟩]
  | "word" => Position.asciiWord
  | "xdigit" => [⟨0x30, 0x39⟩, ⟨0x41, 0x46⟩, ⟨0x61, 0x66⟩]
  | _ => []

/-- The characters of a class written by one letter. -/
def LetterClass.set (unicode : Bool) : LetterClass → CodeSet
  | .digit => if unicode then digits else posixSet "digit"
  | .space => if unicode then blanks else posixSet "space"
  | .word => if unicode then wordCharacters else posixSet "word"

/-- The set that a Unicode class asks for. -/
def PropertyQuery.set? : PropertyQuery → Option CodeSet
  | .named name =>
    let name := looseName name
    match if name = "cf" ∨ name = "sc" ∨ name = "lc" then none else property? name with
    | some s => some s
    | none =>
      match category? name with
      | some s => some s
      | none => script? name
  | .valued isEqual property value =>
    let value := looseName value
    let s? :=
      match looseName property with
      | "gc" | "generalcategory" => category? value
      | "sc" | "script" => script? value
      | _ => none
    s?.map fun s => if isEqual then s else CodeSet.complement s

/-- The end of a range; without Unicode it has to be a byte of ASCII. -/
def rangeEnd? (f : Flags) (lit : Literal) : Option Nat :=
  if f.unicode ∨ lit.char.toNat < 128 then some lit.char.toNat else none

/-- A set, negated on demand. -/
def negateIf (f : Flags) (negated : Bool) (s : CodeSet) : Option CodeSet :=
  if negated then f.negate s else some s

/-- The characters of a class. -/
def classSet (f : Flags) : ClassExpr → Option CodeSet
  | .empty => some []
  | .range low high => do
    let a ← rangeEnd? f low
    let b ← rangeEnd? f high
    some [⟨a, b⟩]
  | .posix negated name => negateIf f negated (f.fold (posixSet name))
  | .letter negated cls => negateIf f negated (cls.set f.unicode)
  | .property negated query =>
    if f.unicode then do
      let s ← query.set?
      negateIf f negated (f.fold s)
    else none
  | .bracket negated body => do
    let s ← classSet f body
    let s := f.fold (CodeSet.normalize s)
    if !f.unicode && !s.isAscii then none else negateIf f negated s
  | .union a b => do
    let s ← classSet f a
    let t ← classSet f b
    some (s ++ t)
  | .inter a b => do
    let s ← classSet f a
    let t ← classSet f b
    some (CodeSet.inter (f.fold (CodeSet.normalize s)) (f.fold (CodeSet.normalize t)))
  | .diff a b => do
    let s ← classSet f a
    let t ← classSet f b
    some (CodeSet.diff (f.fold (CodeSet.normalize s)) (f.fold (CodeSet.normalize t)))
  | .symmDiff a b => do
    let s ← classSet f a
    let t ← classSet f b
    some (CodeSet.symmDiff (f.fold (CodeSet.normalize s)) (f.fold (CodeSet.normalize t)))

/-- The characters that a dot stands for. -/
def dotSet (f : Flags) : CodeSet :=
  if f.dotMatchesNewline then [⟨0, maxCode⟩]
  else if f.crlf then CodeSet.complement [⟨10, 10⟩, ⟨13, 13⟩]
  else CodeSet.complement [⟨10, 10⟩]

/-- The condition that an anchor stands for. -/
def anchorPosition (f : Flags) : Anchor → Position
  | .lineStart => if f.multiLine then (if f.crlf then .crlfStart else .lineStart) else .textStart
  | .lineEnd => if f.multiLine then (if f.crlf then .crlfEnd else .lineEnd) else .textEnd
  | .textStart => .textStart
  | .textEnd => .textEnd
  | .wordBoundary => .wordBoundary (!f.unicode)
  | .notWordBoundary => .notWordBoundary (!f.unicode)
  | .wordStart => .wordStart (!f.unicode)
  | .wordEnd => .wordEnd (!f.unicode)
  | .wordStartHalf => .wordStartHalf (!f.unicode)
  | .wordEndHalf => .wordEndHalf (!f.unicode)

/-- Either of two patterns; two sets of characters become one. -/
def either : Pattern → Pattern → Pattern
  | .chars s, .chars t => .chars (CodeSet.union s t)
  | p, q => .alt p q

/-- The pattern with its meaning under the given flags, and the flags that hold after it. -/
def Expr.compile (f : Flags) : Expr → Option (Pattern × Flags)
  | .empty => some (.empty, f)
  | .literal lit =>
    if !f.unicode && lit.isByte && 128 ≤ lit.char.toNat then none
    else if !f.unicode && 128 ≤ lit.char.toNat then some (.chars (CodeSet.single lit.char.toNat), f)
    else some (.chars (f.fold (CodeSet.single lit.char.toNat)), f)
  | .dot => if f.unicode then some (.chars (dotSet f), f) else none
  | .anchor a => some (.position (anchorPosition f a), f)
  | .cls e => (classSet f e).map fun s => (.chars s, f)
  | .flags items => some (.empty, f.apply items)
  | .group items _ body => (body.compile (f.apply items)).map fun (p, _) => (p, f)
  | .repetition body least most => do
    let (p, f) ← body.compile f
    if p.isEmptyOnly then some (.repetition p (min least 1) (most.map (min · 1)), f)
    else some (.repetition p least most, f)
  | .alt a b => do
    let (p, f) ← a.compile f
    let (q, f) ← b.compile f
    some (either p q, f)
  | .cat a b => do
    let (p, f) ← a.compile f
    let (q, f) ← b.compile f
    some (.cat p q, f)

/-- The pattern that a text spells, unless it spells none or one that is too large. -/
def parse? (text : String) : Option Pattern := do
  let e ← Expr.parse? text
  let (p, _) ← e.compile {}
  if p.size ≤ maxSize then some p else none

end AddressWatch.Pattern
