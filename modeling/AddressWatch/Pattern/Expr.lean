/-
  AddressWatch.Pattern.Expr

  Patterns as they are written: what each construct is, before flags give it a meaning.
-/

namespace AddressWatch.Pattern

/-- The flags a pattern can set and clear. -/
inductive Flag where
  | caseInsensitive
  | multiLine
  | dotMatchesNewline
  | swapGreed
  | unicode
  | crlf
  | verbose
  deriving DecidableEq, Repr

/-- One item between `(?` and `)` or `:`; a negation turns the items after it into clearing ones. -/
inductive FlagItem where
  | negation
  | flag (flag : Flag)
  deriving DecidableEq, Repr

/-- A character as it is written; `isByte` for one given by exactly two hexadecimal digits, which
names a byte where Unicode is off. -/
structure Literal where
  char : Char
  isByte : Bool
  deriving DecidableEq, Repr

/-- The classes written by one letter. -/
inductive LetterClass where
  | digit
  | space
  | word
  deriving DecidableEq, Repr

/-- What a Unicode class asks for. -/
inductive PropertyQuery where
  /-- A property, category or script by its name alone. -/
  | named (name : List Char)
  /-- A property with a value. -/
  | valued (isEqual : Bool) (property value : List Char)
  deriving DecidableEq, Repr

/-- The content of a bracketed class. -/
inductive ClassExpr where
  | empty
  | range (low high : Literal)
  | posix (negated : Bool) (name : String)
  | letter (negated : Bool) (cls : LetterClass)
  | property (negated : Bool) (query : PropertyQuery)
  | bracket (negated : Bool) (body : ClassExpr)
  | union (first rest : ClassExpr)
  | inter (left right : ClassExpr)
  | diff (left right : ClassExpr)
  | symmDiff (left right : ClassExpr)
  deriving DecidableEq, Repr

/-- Conditions on a position, as they are written. -/
inductive Anchor where
  | lineStart
  | lineEnd
  | textStart
  | textEnd
  | wordBoundary
  | notWordBoundary
  | wordStart
  | wordEnd
  | wordStartHalf
  | wordEndHalf
  deriving DecidableEq, Repr

/-- A pattern as it is written. -/
inductive Expr where
  | empty
  | literal (lit : Literal)
  | dot
  | anchor (anchor : Anchor)
  | cls (cls : ClassExpr)
  | flags (items : List FlagItem)
  | group (items : List FlagItem) (captures : Bool) (body : Expr)
  | repetition (body : Expr) (least : Nat) (most : Option Nat)
  | alt (left right : Expr)
  | cat (first rest : Expr)
  deriving DecidableEq, Repr

namespace ClassExpr

/-- How deeply class constructs are nested. A run of alternatives counts once: `inUnion` says that
the expression continues one. -/
def depth (inUnion : Bool) : ClassExpr → Nat
  | .empty | .range .. | .posix .. | .letter .. | .property .. => 0
  | .bracket _ body => 1 + depth false body
  | .union a b => (if inUnion then 0 else 1) + max (depth false a) (depth true b)
  | .inter a b | .diff a b | .symmDiff a b => 1 + max (depth false a) (depth false b)

end ClassExpr

/-- The list of which a pattern continues a run, if it does. -/
inductive Run where
  | none
  | alternatives
  | sequence
  deriving DecidableEq

namespace Expr

/-- How deeply the pattern is nested. A run of alternatives and a run of parts each count once:
`run` says which of them the expression continues. -/
def depth (run : Run) : Expr → Nat
  | .empty | .literal _ | .dot | .anchor _ | .flags _ => 0
  | .cls (.property ..) | .cls (.letter ..) => 0
  | .cls body => body.depth false
  | .group _ _ body => 1 + depth .none body
  | .repetition body _ _ => 1 + depth .none body
  | .alt a b => (if run = .alternatives then 0 else 1) + max (depth .none a) (depth .alternatives b)
  | .cat a b => (if run = .sequence then 0 else 1) + max (depth .none a) (depth .sequence b)

/-- The sequence of the parts. -/
def ofParts : List Expr → Expr
  | [] => .empty
  | [e] => e
  | e :: rest => .cat e (ofParts rest)

/-- The choice between the branches. -/
def ofBranches : List Expr → Expr
  | [] => .empty
  | [e] => e
  | e :: rest => .alt e (ofBranches rest)

end Expr

/-- What the items leave a flag as: the first item that names the flag decides. -/
def flagState? (flag : Flag) (items : List FlagItem) : Option Bool :=
  go true items
where
  /-- `setting` is false after a negation. -/
  go (setting : Bool) : List FlagItem → Option Bool
    | [] => none
    | .negation :: rest => go false rest
    | .flag f :: rest => if f = flag then some setting else go setting rest

end AddressWatch.Pattern
