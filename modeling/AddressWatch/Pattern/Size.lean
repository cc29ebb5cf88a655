/-
  AddressWatch.Pattern.Size

  How large the automaton for a pattern is, which reads the bytes of a match from the last to the
  first: what its states take in bytes and what their transitions take. Every round of a counted
  repetition has states of its own, so that short patterns can be large.
-/

import AddressWatch.Pattern.Matcher
import AddressWatch.Unicode.ByteRanges

namespace AddressWatch.Pattern

open Unicode

/-- The greatest size of a pattern that can be searched for. -/
def maxSize : Nat := 10485760

/-- The size of a state without its transitions. -/
def stateSize : Nat := 32

/-- The size of a transition on a byte to a state. -/
def edgeSize : Nat := 8

/-- The size of a transition to a state without reading. -/
def branchSize : Nat := 4

/-- Whether the set holds a single character. -/
def isSingle : CodeSet → Bool
  | [r] => r.low == r.high
  | _ => false

/-- The size for one character of a set. A single character takes a state for each of its bytes, a
set of ASCII characters one state with an edge for each range, and any other set a state for each
start that the forms of its characters have, shared ones once. -/
def setSize (s : CodeSet) : Nat :=
  let forms := s.byteRanges
  if s.isEmpty then stateSize
  else if isSingle s then stateSize * countStarts [] forms
  else if s.isAscii then 2 * stateSize + edgeSize * s.length
  else 2 * stateSize + branchSize * forms.length + stateSize * countStarts [] forms

/-- What it adds to the size that a pattern is one of several branches. -/
def branchCost (isBranch : Bool) : Nat := if isBranch then branchSize else 0

/-- The size of a pattern; `isBranch` says whether it is one of several branches. -/
def sizeAs (isBranch : Bool) : Pattern → Nat
  | .alt a b => (if isBranch then 0 else 2 * stateSize) + sizeAs true a + sizeAs true b
  | .empty | .position _ => branchCost isBranch + stateSize
  | .chars set => branchCost isBranch + setSize set
  | .cat a b => branchCost isBranch + sizeAs false a + sizeAs false b
  | .repetition body least most =>
    let round := sizeAs false body
    let choice := stateSize + 2 * branchSize
    branchCost isBranch +
      match most with
      | none => round * max least 1 + choice
      | some m =>
        if m = least then max stateSize (round * least)
        else round * least + stateSize + (round + choice) * (m - least)

/-- The size of a pattern. -/
def size (p : Pattern) : Nat := p.sizeAs false

end AddressWatch.Pattern
