/-
  AddressWatch.CommandLine.Parser

  Reading the arguments of the program. Options are taken one after the other; one that needs a
  value takes the next argument that is not an option, and counts as given only when something
  else follows it. Options behind the command come after all of those in front of it, of which the
  last one is settled last.
-/

import AddressWatch.CommandLine.Option

namespace AddressWatch.CommandLine

/-- The options that were given, with their values, in order. -/
abbrev Given := List (CliOption × String)

/-- How far a part of the command line was read. -/
structure Progress where
  given : Given
  /-- An option that is not settled, with its value if that has come. -/
  pending : Option (CliOption × Option String)
  /-- Whether no options can follow. -/
  trailing : Bool
  deriving DecidableEq, Repr

namespace Progress

/-- The beginning of a part of the command line. -/
def start : Progress := ⟨[], none, false⟩

/-- Whether an option waits for its value. -/
def isWaiting (p : Progress) : Bool := p.pending.any (·.2.isNone)

end Progress

/-- Whether a value fits an option. -/
def checkValue (o : CliOption) (value : String) : Except UsageError Unit :=
  match o with
  | .config | .output => if value.isEmpty then .error (.missingValue o) else .ok ()
  | .sliceMs | .backoffMs =>
    match readWord64 value with
    | .ok _ => .ok ()
    | .error fault => .error (.invalidValue o value fault)
  | _ => .ok ()

/-- Adds an option that is given with its value. -/
def give (o : CliOption) (value : String) (given : Given) : Except UsageError Given :=
  if !o.repeatable && given.any (·.1 == o) then .error (.repeated o)
  else
    match checkValue o value with
    | .ok () => .ok (given ++ [(o, value)])
    | .error e => .error e

/-- Settles the option that is not settled. -/
def Progress.settle (p : Progress) : Except UsageError Given :=
  match p.pending with
  | none => .ok p.given
  | some (o, none) => .error (.missingValue o)
  | some (o, some value) => give o value p.given

/-- What an option without a value does when it comes. -/
def takeFlag (o : CliOption) (given : Given) : Except UsageError Given :=
  match o with
  | .help => .error .help
  | .version => .error .version
  | o => give o "" given

/-- Takes an option, with the value that is attached to it, if there is one. -/
def takeOption (p : Progress) (o : CliOption) (attached : Option String) :
    Except UsageError Progress :=
  match o.value?, attached with
  | none, some value => .error (.needlessValue o value)
  | none, none => do
    let given ← takeFlag o (← p.settle)
    .ok { p with given, pending := none }
  | some _, some value => do
    let given ← give o value (← p.settle)
    .ok { p with given, pending := none }
  | some _, none => do
    .ok { p with given := ← p.settle, pending := some (o, none) }

/-- Takes an argument behind two hyphens. -/
def takeLong (scope : CliScope) (p : Progress) (cs : List Char) : Except UsageError Progress :=
  let name := String.ofList (cs.takeWhile (· ≠ '='))
  let attached := match cs.dropWhile (· ≠ '=') with
    | [] => none
    | _ :: value => some (String.ofList value)
  match scope.options.find? (·.long == name) with
  | some o => takeOption p o attached
  | none => .error (.unexpectedArgument ("--" ++ name))

/-- Takes the letters behind one hyphen. What follows the letter of an option with a value is its
value. -/
def takeLetters (scope : CliScope) (p : Progress) : List Char → Except UsageError Progress
  | [] => .ok p
  | c :: rest =>
    match scope.options.find? (·.short? == some c) with
    | none => .error (.unexpectedArgument (String.ofList ['-', c]))
    | some o =>
      match o.value?, rest with
      | none, _ => do
        let p ← takeOption p o none
        takeLetters scope p rest
      | some _, [] => takeOption p o none
      | some _, '=' :: value => takeOption p o (some (String.ofList value))
      | some _, value => takeOption p o (some (String.ofList value))

/-- The names of the commands. -/
def commandNames : List String := ["list", "watch", "init", "help"]

/-- Whether an argument names a command in a part of the command line. -/
def namesCommand (scope : CliScope) (arg : String) : Bool :=
  scope == .main && commandNames.contains arg

/-- The error for an argument that is neither an option nor a value. -/
def misplaced (scope : CliScope) (trailing : Bool) (arg : String) : UsageError :=
  if scope == .main && !(trailing && namesCommand scope arg) then .unknownCommand arg
  else .unexpectedArgument arg

/-- Takes an argument that names no command. -/
def takeArgument (scope : CliScope) (p : Progress) (arg : String) : Except UsageError Progress :=
  if p.trailing then .error (misplaced scope true arg)
  else
    match arg.toList with
    | ['-', '-'] => .ok { p with trailing := true }
    | '-' :: '-' :: cs => takeLong scope p cs
    | '-' :: c :: cs => takeLetters scope p (c :: cs)
    | _ =>
      match p.pending with
      | some (o, none) => .ok { p with pending := some (o, some arg) }
      | _ => .error (misplaced scope false arg)

/-- Reads a part of the command line: how far it was read, and the name of the command that ends
it with the arguments behind it. -/
def readPart (scope : CliScope) (p : Progress) :
    List String → Except UsageError (Progress × Option (String × List String))
  | [] => .ok (p, none)
  | arg :: rest =>
    if !p.trailing && !p.isWaiting && namesCommand scope arg then .ok (p, some (arg, rest))
    else
      match takeArgument scope p arg with
      | .ok p => readPart scope p rest
      | .error e => .error e

/-- What the arguments behind the command `help` come to. -/
def readHelp : List String → UsageError
  | [] => .help
  | arg :: rest =>
    if commandNames.contains arg then
      match rest with
      | [] => .help
      | next :: _ => .unknownCommand next
    else .unknownCommand arg

/-- Reads the options behind a command. -/
def readCommandOptions (scope : CliScope) (args : List String) : Except UsageError Given :=
  match readPart scope .start args with
  | .ok (p, _) => p.settle
  | .error e => .error e

/-- The scope of a command by its name, apart from `help`. -/
def commandScope : String → CliScope
  | "list" => .list
  | "watch" => .watch
  | _ => .init

/-- Reads a command line: the command with the options in front of it and behind it. -/
def read (args : List String) : Except UsageError (CliScope × Given × Given) :=
  match readPart .main .start args with
  | .error e => .error e
  | .ok (p, some (name, rest)) =>
    if name = "help" then .error (readHelp rest)
    else do
      let behind ← readCommandOptions (commandScope name) rest
      let front ← p.settle
      .ok (commandScope name, front, behind)
  | .ok (p, none) => do
    let front ← p.settle
    .error (if front.isEmpty then .nothingGiven else .missingCommand)

end AddressWatch.CommandLine
