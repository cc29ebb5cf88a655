/-
  AddressWatch.Pattern.Parser

  Reading the text of a pattern. Every step of the two readers consumes a character, so the length
  of the text bounds how many there are.
-/

import AddressWatch.Pattern.Cursor

namespace AddressWatch.Pattern

/-! ## Bracketed classes -/

/-- The operators between the sides of a class. -/
inductive ClassOp where
  | inter
  | diff
  | symmDiff
  deriving DecidableEq

/-- The class expression of an operator. -/
def ClassOp.apply : ClassOp → ClassExpr → ClassExpr → ClassExpr
  | .inter, a, b => .inter a b
  | .diff, a, b => .diff a b
  | .symmDiff, a, b => .symmDiff a b

/-- The union of the items. -/
def unionOfItems : List ClassExpr → ClassExpr
  | [] => .empty
  | [e] => e
  | e :: rest => .union e (unionOfItems rest)

/-- The names of the ASCII classes. -/
def posixNames : List String :=
  ["alnum", "alpha", "ascii", "blank", "cntrl", "digit", "graph", "lower", "print", "punct", "space",
    "upper", "word", "xdigit"]

/-- Reads an ASCII class such as `[:alpha:]`; the cursor stands on its bracket. -/
def readPosix? (c : Cursor) : Option (ClassExpr × Cursor) :=
  match c.rest with
  | '[' :: ':' :: rest =>
    let negated := rest.head? == some '^'
    let rest := if negated then rest.tail else rest
    let name := rest.takeWhile (· ≠ ':')
    match rest.dropWhile (· ≠ ':') with
    | ':' :: ']' :: after =>
      if posixNames.contains (String.ofList name) then
        some (.posix negated (String.ofList name), c.moveTo after)
      else none
    | _ => none
  | _ => none

/-- Reads a member of a class: an escape or a character that stands for itself. -/
def readMember (c : Cursor) : Option (Item × Cursor) :=
  match c.peek? with
  | none => none
  | some '\\' => readEscape c
  | some x => some (.literal ⟨x, false⟩, c.moveTo c.rest.tail)

/-- The class of one member; positions have no place in a class. -/
def classOfItem? : Item → Option ClassExpr
  | .literal lit => some (.range lit lit)
  | .letter negated cls => some (.letter negated cls)
  | .property negated query => some (.property negated query)
  | .anchor _ | .dot => none

/-- Reads a member or a range of characters. A hyphen in front of a closing bracket or of another
hyphen makes no range. -/
def readRange (c : Cursor) : Option (ClassExpr × Cursor) := do
  let (first, c) ← readMember c
  let c := c.skip
  let next ← c.peek?
  if next ≠ '-' ∨ c.peekAfter? = some ']' ∨ c.peekAfter? = some '-' then
    let e ← classOfItem? first
    some (e, c)
  else
    let c := c.advance
    let (last, c) ← readMember c
    match first, last with
    | .literal a, .literal b => if a.char ≤ b.char then some (.range a b, c) else none
    | _, _ => none

/-- Reads the hyphens at the start of a class, which stand for themselves. -/
def readHyphens (items : List ClassExpr) : Nat → Cursor → List ClassExpr × Cursor
  | 0, c => (items, c)
  | fuel + 1, c =>
    if c.peek? = some '-' then
      readHyphens (.range ⟨'-', false⟩ ⟨'-', false⟩ :: items) fuel c.advance
    else (items, c)

/-- Reads the start of a bracketed class: whether it is negated, and its first items in reverse. The
first character of a class is an item even if it is a closing bracket. -/
def readClassStart (c : Cursor) : Option (Bool × List ClassExpr × Cursor) := do
  let c := c.advance
  let x ← c.peek?
  let negated := x == '^'
  let c := if negated then c.advance else c
  let (items, c) := readHyphens [] c.rest.length c
  let y ← c.peek?
  if items.isEmpty ∧ y = ']' then
    let c := c.advance
    let _ ← c.peek?
    some (negated, [.range ⟨']', false⟩ ⟨']', false⟩], c)
  else some (negated, items, c)

/-- The operator whose doubled character stands at the cursor. -/
def classOp? (c : Cursor) : Option ClassOp :=
  match c.rest with
  | '&' :: '&' :: _ => some .inter
  | '-' :: '-' :: _ => some .diff
  | '~' :: '~' :: _ => some .symmDiff
  | _ => none

/-- The class of the items read since `pending`, an operator with its left side, applied to it. -/
def closeSide (pending : Option (ClassOp × ClassExpr)) (items : List ClassExpr) : ClassExpr :=
  let side := unionOfItems items.reverse
  match pending with
  | none => side
  | some (op, left) => op.apply left side

/-- Reads a class up to its closing bracket. `items` are those read since the last operator, in
reverse; `pending` is that operator with what stands to its left. -/
def readClassBody : Nat → Option (ClassOp × ClassExpr) → List ClassExpr → Cursor →
    Option (ClassExpr × Cursor)
  | 0, _, _, _ => none
  | fuel + 1, pending, items, c => do
    let c := c.skip
    let x ← c.peek?
    if x = ']' then some (closeSide pending items, c.moveTo c.rest.tail)
    else if x = '[' then
      match readPosix? c with
      | some (e, c) => readClassBody fuel pending (e :: items) c
      | none =>
        let (negated, first, c) ← readClassStart c
        let (body, c) ← readClassBody fuel none first c
        readClassBody fuel pending (.bracket negated body :: items) c
    else
      match classOp? c with
      | some op =>
        readClassBody fuel (some (op, closeSide pending items)) [] (c.moveTo (c.rest.drop 2))
      | none =>
        let (e, c) ← readRange c
        readClassBody fuel pending (e :: items) c

/-- Reads a bracketed class; the cursor stands on its bracket. -/
def readClass (c : Cursor) : Option (ClassExpr × Cursor) := do
  let (negated, first, start) ← readClassStart c
  let (body, c) ← readClassBody (c.rest.length + 1) none first start
  some (.bracket negated body, c)

/-! ## Patterns -/

/-- What an opening parenthesis begins. -/
inductive GroupStart where
  /-- A group, which runs up to its closing parenthesis. -/
  | group (items : List FlagItem) (captures : Bool)
  /-- Flags for the rest of the group around them. -/
  | setFlags (items : List FlagItem)

/-- Reads what follows an opening parenthesis. Conditions on the text around a position cannot be
written. -/
def readGroupStart (c : Cursor) : Option (GroupStart × Cursor) :=
  let c := c.advance
  match c.rest with
  | '?' :: '=' :: _ | '?' :: '!' :: _ | '?' :: '<' :: '=' :: _ | '?' :: '<' :: '!' :: _ => none
  | '?' :: 'P' :: '<' :: rest | '?' :: '<' :: rest => do
    let (name, after) ← readName rest
    if name ∈ c.names then none
    else some (.group [] true, { c with rest := after, names := name :: c.names })
  | '?' :: rest => do
    let (items, close, after) ← readFlags [] rest
    if close = ')' then
      if items.isEmpty then none else some (.setFlags items, c.moveTo after)
    else some (.group items false, c.moveTo after)
  | _ => some (.group [] true, c)

/-- The anchor or other single construct of an item. -/
def Item.expr : Item → Expr
  | .literal lit => .literal lit
  | .anchor a => .anchor a
  | .letter negated cls => .cls (.letter negated cls)
  | .property negated query => .cls (.property negated query)
  | .dot => .dot

/-- Reads a construct that is neither a group nor a class nor a repetition. -/
def readPrimitive (c : Cursor) : Option (Expr × Cursor) :=
  match c.rest with
  | [] => none
  | '\\' :: _ => (readEscape c).map fun (item, c) => (item.expr, c)
  | '.' :: rest => some (.dot, c.moveTo rest)
  | '^' :: rest => some (.anchor .lineStart, c.moveTo rest)
  | '$' :: rest => some (.anchor .lineEnd, c.moveTo rest)
  | x :: rest => some (.literal ⟨x, false⟩, c.moveTo rest)

/-- The last part read, which a repetition is to apply to, and the parts before it. Flags cannot be
repeated. -/
def repeatable? : List Expr → Option (Expr × List Expr)
  | [] => none
  | .empty :: _ | .flags _ :: _ => none
  | e :: rest => some (e, rest)

/-- The bounds of the repetition that a character stands for. -/
def repetitionOf? : Char → Option (Nat × Option Nat)
  | '?' => some (0, some 1)
  | '*' => some (0, none)
  | '+' => some (1, none)
  | _ => none

/-- Reads branches and their parts up to the end of the group or of the text. `branches` and
`parts` are those read so far, in reverse. -/
def readBranches : Nat → Bool → List Expr → List Expr → Cursor → Option (Expr × Cursor)
  | 0, _, _, _, _ => none
  | fuel + 1, inGroup, branches, parts, c => do
    let c := c.skip
    match c.peek? with
    | none =>
      if inGroup then none
      else some (.ofBranches (Expr.ofParts parts.reverse :: branches).reverse, c)
    | some ')' =>
      if inGroup then
        some (.ofBranches (Expr.ofParts parts.reverse :: branches).reverse, c.moveTo c.rest.tail)
      else none
    | some '|' =>
      readBranches fuel inGroup (Expr.ofParts parts.reverse :: branches) [] (c.moveTo c.rest.tail)
    | some '(' =>
      let (start, inner) ← readGroupStart c
      match start with
      | .setFlags items =>
        let verbose := (flagState? .verbose items).getD inner.verbose
        readBranches fuel inGroup branches (.flags items :: parts) { inner with verbose }
      | .group items captures =>
        let verbose := (flagState? .verbose items).getD inner.verbose
        let (body, after) ← readBranches fuel true [] [] { inner with verbose }
        readBranches fuel inGroup branches (.group items captures body :: parts)
          { after with verbose := c.verbose }
    | some '[' =>
      let (e, c) ← readClass c
      readBranches fuel inGroup branches (.cls e :: parts) c
    | some '{' =>
      let (e, parts) ← repeatable? parts
      let ((least, most), c) ← readBounds c
      readBranches fuel inGroup branches (.repetition e least most :: parts) (skipLazy c)
    | some x =>
      match repetitionOf? x with
      | some (least, most) =>
        let (e, parts) ← repeatable? parts
        readBranches fuel inGroup branches (.repetition e least most :: parts)
          (skipLazy (c.moveTo c.rest.tail))
      | none =>
        let (e, c) ← readPrimitive c
        readBranches fuel inGroup branches (e :: parts) c

/-- How deeply a pattern may be nested. -/
def maxDepth : Nat := 250

/-- The pattern that a text spells, if it does. -/
def Expr.parse? (text : String) : Option Expr := do
  let cs := text.toList
  let (e, _) ← readBranches (cs.length + 1) false [] [] ⟨cs, false, []⟩
  if e.depth .none ≤ maxDepth then some e else none

end AddressWatch.Pattern
