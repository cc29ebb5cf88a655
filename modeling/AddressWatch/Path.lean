/-
  AddressWatch.Path

  Paths as texts with slashes, their components, and the home directory that a leading `~` stands
  for. Only a component that is exactly `~` at the very beginning is replaced, and what follows it
  always lies below the home directory.
-/

namespace AddressWatch.Path

/-- The pieces of a path between its slashes. -/
def pieces : List Char → List (List Char)
  | [] => [[]]
  | c :: rest =>
    if c = '/' then [] :: pieces rest
    else
      match pieces rest with
      | [] => [[c]]
      | p :: ps => (c :: p) :: ps

/-- The path with the given pieces. -/
def join : List (List Char) → List Char
  | [] => []
  | [p] => p
  | p :: rest => p ++ '/' :: join rest

/-- Whether a piece names something: it is not empty, and not `.`, which stands for the same
place. -/
def isName (piece : List Char) : Bool := piece != [] && piece != ['.']

/-- A component of a path. -/
inductive Component where
  | root
  /-- A `.` at the very beginning. -/
  | here
  | name (cs : List Char)
  deriving DecidableEq, Repr

/-- The components of a path: empty pieces and every `.` but one at the beginning are left out. -/
def components (p : List Char) : List Component :=
  let names (ps : List (List Char)) := (ps.filter isName).map Component.name
  match p with
  | [] => []
  | '/' :: rest => .root :: names (pieces rest)
  | _ =>
    match pieces p with
    | ['.'] :: rest => .here :: names rest
    | ps => names ps

/-- The pieces without those at either end that name nothing. -/
def trim (ps : List (List Char)) : List (List Char) :=
  ((ps.dropWhile (! isName ·)).reverse.dropWhile (! isName ·)).reverse

/-- The path of something below a directory, of which the empty one is where the program is. -/
def below (directory rest : List Char) : List Char :=
  if directory = [] ∨ directory.getLast? = some '/' then directory ++ rest
  else directory ++ '/' :: rest

/-- The path with a leading `~` replaced by the home directory; `none` if there is a `~` and no home
directory. -/
def expandTilde? (home : Option (List Char)) (p : List Char) : Option (List Char) :=
  match pieces p with
  | ['~'] :: rest =>
    home.map fun h =>
      let rest := trim rest
      if rest.isEmpty then h else below h (join rest)
  | _ => some p

end AddressWatch.Path
