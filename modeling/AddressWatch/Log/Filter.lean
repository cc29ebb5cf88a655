/-
  AddressWatch.Log.Filter

  Which log lines are shown. A selection is a list of directives, each of which allows a level for
  the parts whose paths begin with a target; the longest target that fits a line decides.
-/

import AddressWatch.CommandLine.Option
import AddressWatch.Log

namespace AddressWatch

/-- What a directive is about. -/
inductive LogTarget where
  /-- All lines. -/
  | everything
  /-- The lines of parts whose paths begin so. -/
  | part (start : List Char)
  /-- Lines inside a named span of time, of which there are none. -/
  | span
  deriving DecidableEq, Repr

/-- The levels up to a rank are allowed for a target; rank zero allows nothing. -/
structure LogDirective where
  target : LogTarget
  rank : Nat
  deriving DecidableEq, Repr

namespace LogDirective

/-- The rank of what is even less grave than a debug line. -/
def allRank : Nat := 5

/-- The words for ranks. -/
def rankWords : List (String × Nat) :=
  [("off", 0), ("error", 1), ("warn", 2), ("info", 3), ("debug", 4), ("trace", 5)]

/-- The rank that a word or a number stands for. -/
def rank? (cs : List Char) : Option Nat :=
  match readWord64 (String.ofList cs) with
  | .ok n => if n.toNat ≤ allRank then some n.toNat else none
  | .error _ => rankWords.lookup (String.ofList (cs.map Char.toLower))

/-- Whether a directive may begin with a character. -/
def canBegin (c : Char) : Bool :=
  c.isAlphanum || c == '-' || c == ':' || c == '_' || 0x80 ≤ c.toNat

/-- The rank behind an equals sign; without a word everything is allowed. -/
def rankBehind? (cs : List Char) : Option Nat := if cs.isEmpty then some allRank else rank? cs

/-- Reads a directive about a span behind its bracket. -/
def readSpan? (cs : List Char) : Option LogDirective :=
  match cs.dropWhile (· ≠ ']') with
  | [] => none
  | [_] => some ⟨.span, allRank⟩
  | _ :: '=' :: level => (rankBehind? level).map fun r => ⟨.span, r⟩
  | _ => none

/-- Reads a directive: a level, a target, or both with an equals sign between them. -/
def read? (cs : List Char) : Option LogDirective :=
  let head := cs.takeWhile fun c => c ≠ '=' ∧ c ≠ '['
  if (cs.head?.map fun c => canBegin c || c == '[') ≠ some true then none
  else
    match cs.drop head.length with
    | [] =>
      match rank? head with
      | some r => some ⟨.everything, r⟩
      | none => some ⟨.part head, allRank⟩
    | '=' :: level => (rankBehind? level).map fun r => ⟨.part head, r⟩
    | _ :: rest => readSpan? rest

/-- The length of the target, if the directive is about the line. -/
def fit? (d : LogDirective) (line : LogLine) : Option Nat :=
  match d.target with
  | .everything => some 0
  | .part start => if start.isPrefixOf line.source.path.toList then some (start.length + 1) else none
  | .span => none

end LogDirective

/-- A selection of log lines. -/
structure LogFilter where
  directives : List LogDirective
  deriving DecidableEq, Repr

namespace LogFilter

/-- The directive that decides about a line: of those with the longest target the last. -/
def deciding? (f : LogFilter) (line : LogLine) : Option LogDirective :=
  (f.directives.foldl (fun best d =>
    match d.fit? line, best with
    | none, _ => best
    | some n, none => some (n, d)
    | some n, some (m, e) => if m ≤ n then some (n, d) else some (m, e)) none).map (·.2)

/-- Whether a line is shown. -/
def shows (f : LogFilter) (line : LogLine) : Bool :=
  (f.deciding? line).any fun d => decide (line.level.rank ≤ d.rank)

/-- What is said of a directive that cannot be read. -/
def complaint (cs : List Char) : String :=
  "ignoring `" ++ String.ofList cs ++ "`: invalid filter directive"

/-- The selection that a text describes, directives with commas between them, and what is said of
those that cannot be read. Without any, all lines up to `level` are shown. -/
def parse (level : Level) (text : String) : LogFilter × List String :=
  let parts := (text.toList.splitOnP (· == ',')).filter (! ·.isEmpty)
  let directives := parts.filterMap LogDirective.read?
  let complaints := (parts.filter fun p => (LogDirective.read? p).isNone).map complaint
  (⟨if directives.isEmpty then [⟨.everything, level.rank⟩] else directives⟩, complaints)

end LogFilter

end AddressWatch
