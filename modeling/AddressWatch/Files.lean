/-
  AddressWatch.Files

  The files of a working directory, and what reading and writing by a path comes to. Nothing is
  known of what lies outside the directory but that its surroundings are directories.
-/

import AddressWatch.Path
import AddressWatch.SystemError
import AddressWatch.Text.Utf8

namespace AddressWatch

/-- What a name in a directory stands for. -/
inductive FileEntry where
  | file (bytes : List UInt8)
  | directory
  deriving DecidableEq, Repr

/-- The entries of a working directory by their paths below it. Every part of an entry's path but
the last is a directory. -/
structure Files where
  entries : List (List (List Char) × FileEntry)
  deriving DecidableEq, Repr

namespace Files

/-- A place that a path leads to. -/
inductive Place where
  /-- Below the working directory, at the given path. -/
  | inside (path : List (List Char))
  /-- In a directory around the working directory. -/
  | around
  /-- In a directory around the working directory, under a name of which nothing is known. -/
  | unknown
  deriving DecidableEq, Repr

/-- What is at a place, if anything is. -/
def entry? (fs : Files) : Place → Option FileEntry
  | .inside path =>
    if path.isEmpty then some .directory
    else
      match fs.entries.lookup path with
      | some e => some e
      | none =>
        if fs.entries.any fun e => path.isPrefixOf e.1 then some .directory else none
  | .around => some .directory
  | .unknown => none

/-- The error number for a name that is not there. -/
def notFound : Int32 := 2

/-- The error number for a way through something that is not a directory. -/
def notDirectory : Int32 := 20

/-- The error number for a directory where a file is needed. -/
def isDirectory : Int32 := 21

/-- The error number for a name that is too long. -/
def nameTooLong : Int32 := 36

/-- The greatest number of bytes in a name. -/
def maxNameLength : Nat := 255

/-- One step on the way, from a directory. -/
def step (place : Place) (piece : List Char) : Place :=
  if !Path.isName piece then place
  else if piece = ['.', '.'] then
    match place with
    | .inside path => if path.isEmpty then .around else .inside path.dropLast
    | other => other
  else
    match place with
    | .inside path => .inside (path ++ [piece])
    | _ => .unknown

/-- The place that pieces of a path lead to. Every piece has to start from a directory. -/
def walk (fs : Files) (place : Place) : List (List Char) → Except Int32 Place
  | [] => .ok place
  | piece :: rest =>
    match fs.entry? place with
    | none => .error notFound
    | some (.file _) => .error notDirectory
    | some .directory =>
      if maxNameLength < (Text.utf8 piece).length then .error nameTooLong
      else fs.walk (step place piece) rest

/-- The place that a path leads to. -/
def locate (fs : Files) (path : List Char) : Except Int32 Place :=
  match path with
  | [] => .error notFound
  | '/' :: rest => fs.walk .around (Path.pieces rest)
  | _ => fs.walk (.inside []) (Path.pieces path)

/-- The failure for a path with a zero character, which no system call takes. -/
def zeroInPath : SystemError := .other "file name contained an unexpected NUL byte"

/-- The bytes of a file. -/
def read (fs : Files) (path : List Char) : Except SystemError (List UInt8) :=
  if path.contains '\x00' then .error zeroInPath
  else
    match fs.locate path with
    | .error errno => .error (.errno errno)
    | .ok place =>
      match fs.entry? place with
      | none => .error (.errno notFound)
      | some .directory => .error (.errno isDirectory)
      | some (.file bytes) => .ok bytes

/-- The text that the bytes of a file make. -/
def textOf (bytes : List UInt8) : Except SystemError (List Char) :=
  match Text.decode? bytes with
  | some cs => .ok cs
  | none => .error (.other "stream did not contain valid UTF-8")

/-- The text of a file. -/
def readText (fs : Files) (path : List Char) : Except SystemError (List Char) :=
  match fs.read path with
  | .error e => .error e
  | .ok bytes => textOf bytes

/-- The files with another content of the file at a path. -/
def put (fs : Files) (path : List (List Char)) (bytes : List UInt8) : Files where
  entries := (path, .file bytes) :: fs.entries.filter (·.1 ≠ path)

/-- Writes a file, which need not be there; its directory has to be. -/
def write (fs : Files) (path : List Char) (bytes : List UInt8) : Except SystemError Files :=
  if path.contains '\x00' then .error zeroInPath
  else
    match fs.locate path with
    | .error errno => .error (.errno errno)
    | .ok place =>
      match fs.entry? place, place with
      | some .directory, _ => .error (.errno isDirectory)
      | _, .inside inner =>
        if path.getLast? = some '/' then .error (.errno isDirectory) else .ok (fs.put inner bytes)
      | _, _ => .error (.errno notFound)

end Files

end AddressWatch
