/-
  AddressWatch.Toml.Value

  The values of a settings text and its tables. A table remembers how it came to be, because that
  decides how it may still grow: a header opens a table once, a dotted key goes only through
  tables that dotted keys or longer headers have made, and an inline table is complete where it
  stands.
-/

import AddressWatch.Binary64.Basic

namespace AddressWatch

/-- How a table came to be. -/
inductive TableKind where
  /-- A header opened it, or it is the table of the whole text. -/
  | opened
  /-- It lies on the path of a header. -/
  | implied
  /-- A dotted key made it. -/
  | dotted
  /-- It was written between braces. -/
  | inline
  deriving DecidableEq, Repr

/-- A floating-point number as it was written. -/
inductive TomlFloat where
  | number (negative : Bool) (magnitude : Binary64)
  | infinity (negative : Bool)
  | notANumber
  deriving DecidableEq, Repr

/-- A value of a settings text. -/
inductive Toml where
  | boolean (b : Bool)
  | integer (i : Int)
  | float (x : TomlFloat)
  | string (cs : List Char)
  | datetime
  | array (items : List Toml)
  /-- An array whose elements are opened by headers. -/
  | tables (items : List Toml)
  | table (kind : TableKind) (entries : List (List Char × Toml))

namespace Toml

/-- The entries of a table. -/
abbrev Entries := List (List Char × Toml)

/-- The entries with another value for a key that is there. -/
def replace (key : List Char) (value : Toml) (entries : Entries) : Entries :=
  entries.map fun entry => if entry.1 = key then (key, value) else entry

/-- Changes the table that a path leads to. Missing tables on the way are made; a way through an
array of tables goes through its last element. -/
def alter (viaDots : Bool) (change : TableKind → Entries → Option Toml) :
    List (List Char) → TableKind → Entries → Option Toml
  | [], kind, entries => change kind entries
  | key :: path, kind, entries =>
    match entries.lookup key with
    | none =>
      (alter viaDots change path (if viaDots then .dotted else .implied) []).map fun t =>
        .table kind (entries ++ [(key, t)])
    | some (.table sub inner) =>
      if sub = .inline ∨ (viaDots ∧ sub = .opened) then none
      else (alter viaDots change path sub inner).map fun t => .table kind (replace key t entries)
    | some (.tables items) =>
      match items.getLast? with
      | some (.table sub inner) =>
        (alter viaDots change path sub inner).map fun t =>
          .table kind (replace key (.tables (items.dropLast ++ [t])) entries)
      | _ => none
    | some _ => none

/-- Gives a key its value, once. Tables made by dotted keys grow by dotted keys only, and others by
simple keys only. -/
def put (viaDots : Bool) (key : List Char) (value : Toml) (kind : TableKind) (entries : Entries) :
    Option Toml :=
  if (kind = .dotted) ≠ (viaDots = true) then none
  else
    match entries.lookup key with
    | none => some (.table kind (entries ++ [(key, value)]))
    | some _ => none

/-- Gives a dotted key its value, below the given entries. -/
def assign (path : List (List Char)) (value : Toml) (kind : TableKind) (entries : Entries) :
    Option Toml :=
  match path.getLast? with
  | none => none
  | some key =>
    let way := path.dropLast
    alter true (put (!way.isEmpty) key value) way kind entries

/-- Opens a table; one that is only implied so far keeps what is in it. -/
def openTable (key : List Char) (kind : TableKind) (entries : Entries) : Option Toml :=
  match entries.lookup key with
  | none => some (.table kind (entries ++ [(key, .table .opened [])]))
  | some (.table .implied inner) => some (.table kind (replace key (.table .opened inner) entries))
  | some _ => none

/-- Opens one more element of an array of tables. -/
def openItem (key : List Char) (kind : TableKind) (entries : Entries) : Option Toml :=
  match entries.lookup key with
  | none => some (.table kind (entries ++ [(key, .tables [.table .opened []])]))
  | some (.tables items) =>
    some (.table kind (replace key (.tables (items ++ [.table .opened []])) entries))
  | some _ => none

/-- A line of a settings text that says something. -/
inductive Statement where
  /-- The following lines are about this table. -/
  | header (path : List (List Char))
  /-- The following lines are about a new element of this array of tables. -/
  | itemHeader (path : List (List Char))
  /-- A key has this value. -/
  | assignment (path : List (List Char)) (value : Toml)

/-- A text that is being read: the table of all that was said, and the path of the table that the
next lines are about. -/
structure Draft where
  root : Entries
  current : List (List Char)

namespace Draft

/-- The draft with another root table. -/
def withRoot (d : Draft) (root : Option Toml) : Option Draft :=
  match root with
  | some (.table _ entries) => some { d with root := entries }
  | _ => none

/-- The draft after one more line. -/
def add (d : Draft) : Statement → Option Draft
  | .assignment path value =>
    d.withRoot (alter false (assign path value) d.current .opened d.root)
  | .header path =>
    match path.getLast? with
    | none => none
    | some key =>
      { d with current := path }.withRoot (alter false (openTable key) path.dropLast .opened d.root)
  | .itemHeader path =>
    match path.getLast? with
    | none => none
    | some key =>
      { d with current := path }.withRoot (alter false (openItem key) path.dropLast .opened d.root)

end Draft

/-- The table of a text, from its lines. -/
def ofStatements? (statements : List Statement) : Option Entries :=
  (statements.foldlM Draft.add ⟨[], []⟩).map Draft.root

end Toml

end AddressWatch
