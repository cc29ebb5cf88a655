/-
  AddressWatch.Pattern.Matcher

  Patterns with their meaning settled, and the search for them. A pattern relates the positions of
  a text: from a position where a match starts to those where one can end. `ends` carries a whole
  set of positions across the pattern, so the work is bounded by the size of the pattern and the
  length of the text.
-/

import AddressWatch.Unicode.Database

namespace AddressWatch

open Unicode

/-- Conditions on a position. -/
inductive Position where
  | textStart
  | textEnd
  | lineStart
  | lineEnd
  /-- The start of a line where carriage returns end lines too, but not between one and its line
  feed. -/
  | crlfStart
  /-- The end of a line where carriage returns end lines too. -/
  | crlfEnd
  | wordBoundary (ascii : Bool)
  | notWordBoundary (ascii : Bool)
  | wordStart (ascii : Bool)
  | wordEnd (ascii : Bool)
  | wordStartHalf (ascii : Bool)
  | wordEndHalf (ascii : Bool)
  deriving DecidableEq, Repr

/-- A pattern with its meaning settled. -/
inductive Pattern where
  | empty
  | chars (set : CodeSet)
  | position (p : Position)
  | cat (first rest : Pattern)
  | alt (left right : Pattern)
  | repetition (body : Pattern) (least : Nat) (most : Option Nat)
  deriving DecidableEq, Repr

namespace Position

/-- Characters of words among the ASCII characters. -/
def asciiWord : CodeSet := [⟨0x30, 0x39⟩, ⟨0x41, 0x5A⟩, ⟨0x5F, 0x5F⟩, ⟨0x61, 0x7A⟩]

/-- Whether there is a character and it is one of a word. -/
def isWord (ascii : Bool) (c : Option Char) : Bool :=
  match c with
  | none => false
  | some c => if ascii then asciiWord.has c.toNat else wordCharacters.has c.toNat

/-- Whether the condition holds between the two characters, of which either may be missing. -/
def holds (before after : Option Char) : Position → Bool
  | .textStart => before.isNone
  | .textEnd => after.isNone
  | .lineStart => before.isNone || before == some '\n'
  | .lineEnd => after.isNone || after == some '\n'
  | .crlfStart =>
    before.isNone || before == some '\n' || (before == some '\r' && after != some '\n')
  | .crlfEnd =>
    after.isNone || after == some '\r' || (after == some '\n' && before != some '\r')
  | .wordBoundary ascii => isWord ascii before != isWord ascii after
  | .notWordBoundary ascii => isWord ascii before == isWord ascii after
  | .wordStart ascii => !isWord ascii before && isWord ascii after
  | .wordEnd ascii => isWord ascii before && !isWord ascii after
  | .wordStartHalf ascii => !isWord ascii before
  | .wordEndHalf ascii => !isWord ascii after

end Position

namespace Pattern

/-- The union of two ascending lists of positions, ascending. -/
def unite : List Nat → List Nat → List Nat
  | [], ys => ys
  | xs, [] => xs
  | x :: xs, y :: ys =>
    if x < y then x :: unite xs (y :: ys)
    else if y < x then y :: unite (x :: xs) ys
    else x :: unite xs ys

/-- The positions after `n` steps; a step that changes nothing is the last one needed. -/
def exactly (step : List Nat → List Nat) : Nat → List Nat → List Nat
  | 0, at_ => at_
  | n + 1, at_ =>
    let next := step at_
    if next = at_ then at_ else exactly step n next

/-- The positions after at most `n` steps; once a step adds none, no later one does. -/
def upTo (step : List Nat → List Nat) : Nat → List Nat → List Nat
  | 0, at_ => at_
  | n + 1, at_ =>
    let next := unite at_ (step at_)
    if next = at_ then at_ else upTo step n next

/-- The positions where a match can end that starts at one of the positions `starts`, ascending. -/
def ends (text : Array Char) : Pattern → List Nat → List Nat
  | .empty, starts => starts
  | .chars set, starts =>
    starts.filterMap fun i =>
      match text[i]? with
      | some c => if set.has c.toNat then some (i + 1) else none
      | none => none
  | .position p, starts =>
    starts.filter fun i => p.holds (if i = 0 then none else text[i - 1]?) text[i]?
  | .cat a b, starts => ends text b (ends text a starts)
  | .alt a b, starts => unite (ends text a starts) (ends text b starts)
  | .repetition body least most, starts =>
    let reached := exactly (ends text body) least starts
    upTo (ends text body) ((most.map (· - least)).getD (text.size + 1)) reached

/-- Whether the pattern matches somewhere in the text. -/
def found (p : Pattern) (text : String) : Bool :=
  let cs := text.toList.toArray
  !(p.ends cs (List.range (cs.size + 1))).isEmpty

/-- Whether every match of the pattern is empty. -/
def isEmptyOnly : Pattern → Bool
  | .empty | .position _ => true
  | .chars _ => false
  | .cat a b | .alt a b => a.isEmptyOnly && b.isEmptyOnly
  | .repetition body _ most => body.isEmptyOnly || most == some 0

end Pattern

end AddressWatch
