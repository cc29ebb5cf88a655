/-
  AddressWatch.CommandLine

  What the command line asks for: one of three commands with its options, a configuration file,
  and whether to log in detail. Options that every command has may stand in front of the command
  or behind it; behind it they win.
-/

import AddressWatch.CommandLine.Parser
import AddressWatch.Config.FileSettings

namespace AddressWatch

/-- The options of the command that lists addresses. -/
structure ListOptions where
  flags : InclusionFlags := {}
  json : Bool := false
  /-- The only interface to list, if one is named. -/
  interface : Option String := none
  names : NamePatterns := {}
  deriving DecidableEq, Repr

/-- The options of the command that watches addresses. -/
structure WatchOptions where
  timing : Timing := {}
  json : Bool := false
  names : NamePatterns := {}
  deriving DecidableEq, Repr

/-- What the program is asked to do. -/
inductive Command where
  | list (options : ListOptions)
  | watch (options : WatchOptions)
  /-- Write a configuration file to a path. -/
  | init (output : String)
  deriving DecidableEq, Repr

/-- A command line. -/
structure CommandLine where
  command : Command
  /-- The path of the configuration file, as it was given. -/
  config : Option String
  verbose : Bool
  deriving DecidableEq, Repr

namespace CommandLine

/-- The path to which a configuration file is written if no other is given. -/
def defaultOutput : String := "netut.toml"

/-- Whether an option was given. -/
def has (given : Given) (o : CliOption) : Bool := given.any (·.1 == o)

/-- The values of an option, in order. -/
def values (given : Given) (o : CliOption) : List String :=
  (given.filter (·.1 == o)).map (·.2)

/-- The value of an option that may be given once. -/
def value? (given : Given) (o : CliOption) : Option String := (values given o).head?

/-- The number that is the value of an option. -/
def number? (given : Given) (o : CliOption) : Option UInt64 :=
  (value? given o).bind fun text => (readWord64 text).toOption

/-- The patterns of names that were given. -/
def namePatterns (given : Given) : NamePatterns where
  includes := values given .includeInterface
  excludes := values given .excludeInterface

/-- The command with the given options. -/
def commandOf (given : Given) : CliScope → Command
  | .list =>
    .list
      { flags :=
          { ipv6 := has given .ipv6, loopback := has given .loopback, down := has given .down }
        json := has given .json
        interface := value? given .interface
        names := namePatterns given }
  | .watch =>
    .watch
      { timing := { slice := number? given .sliceMs, backoff := number? given .backoffMs }
        json := has given .json
        names := namePatterns given }
  | _ => .init ((value? given .output).getD defaultOutput)

/-- The command line that the arguments make. -/
def parse (args : List String) : Except UsageError CommandLine :=
  match read args with
  | .error e => .error e
  | .ok (scope, front, behind) =>
    .ok
      { command := commandOf behind scope
        config := (value? behind .config) <|> (value? front .config)
        verbose := has front .verbose || has behind .verbose }

/-- Whether a configuration file is to be written. -/
def isInit (c : CommandLine) : Bool :=
  match c.command with
  | .init _ => true
  | _ => false

/-- The flags that the command gives. -/
def flags (c : CommandLine) : InclusionFlags :=
  match c.command with
  | .list o => o.flags
  | _ => {}

/-- The patterns of names that the command gives. -/
def names (c : CommandLine) : NamePatterns :=
  match c.command with
  | .list o => o.names
  | .watch o => o.names
  | .init _ => {}

/-- The times that the command gives. -/
def timing (c : CommandLine) : Timing :=
  match c.command with
  | .watch o => o.timing
  | _ => {}

/-- Whether the command asks for JSON. -/
def json (c : CommandLine) : Bool :=
  match c.command with
  | .list o => o.json
  | .watch o => o.json
  | .init _ => false

/-- The only interface that the command asks for, if it names one. -/
def interface? (c : CommandLine) : Option String :=
  match c.command with
  | .list o => o.interface
  | _ => none

end CommandLine

end AddressWatch
