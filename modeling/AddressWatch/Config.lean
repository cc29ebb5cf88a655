/-
  AddressWatch.Config

  The configuration that holds for a command line and a configuration file. What the command line
  gives wins over what the file gives, and that over what holds by itself: patterns of one kind
  replace those of the file, times replace times, and flags only switch on. Only what holds in the
  end is checked.
-/

import AddressWatch.CommandLine
import AddressWatch.Config.Error
import AddressWatch.Files
import AddressWatch.Monitor

namespace AddressWatch

/-- A valid configuration. -/
structure Config where
  flags : InclusionFlags
  /-- Which records and which names are selected. -/
  filter : FilterChain
  /-- The only interface to list, if one is named. -/
  interface : Option String
  /-- How long one wait of the watch may take; not zero. -/
  slice : Duration
  /-- How long the watch pauses after an interrupted wait. -/
  backoff : Duration
  json : Bool
  verbose : Bool

namespace Config

/-- The flags that are set in either. -/
def eitherFlags (a b : InclusionFlags) : InclusionFlags where
  ipv6 := a.ipv6 || b.ipv6
  loopback := a.loopback || b.loopback
  down := a.down || b.down

/-- The patterns of the command line if there are any, or else those of the file. -/
def effective (commandLine file : List String) : List String :=
  if commandLine.isEmpty then file else commandLine

/-- The matchers of patterns; the first one that cannot be compiled is the error. -/
def compileAll (compile : String → Option NameMatcher) :
    List String → Except ConfigError (List NameMatcher)
  | [] => .ok []
  | p :: rest =>
    match compile p with
    | none => .error (.invalidPattern p)
    | some m =>
      match compileAll compile rest with
      | .ok ms => .ok (m :: ms)
      | .error e => .error e

/-- The milliseconds of a wait if neither the command line nor the file gives them. -/
def defaultSlice : UInt64 := UInt64.ofNat Monitor.defaultSlice.wholeMillis

/-- The milliseconds of a pause if neither the command line nor the file gives them. -/
def defaultBackoff : UInt64 := UInt64.ofNat Monitor.defaultBackoff.wholeMillis

/-- The configuration that holds for a command line and the settings of a file, if there is one. -/
def resolve (compile : String → Option NameMatcher) (c : CommandLine) (file : Option FileSettings) :
    Except ConfigError Config := do
  let settings := file.getD {}
  let flags := eitherFlags c.flags settings.flags
  let includes ← compileAll compile (effective c.names.includes settings.names.includes)
  let excludes ← compileAll compile (effective c.names.excludes settings.names.excludes)
  let slice := (c.timing.slice <|> settings.timing.slice).getD defaultSlice
  let backoff := (c.timing.backoff <|> settings.timing.backoff).getD defaultBackoff
  if slice = 0 then .error (.zeroDuration "slice_ms")
  else
    .ok
      { flags
        filter := { base := some flags, includes, excludes }
        interface := c.interface?
        slice := .ofMillis slice
        backoff := .ofMillis backoff
        json := c.json || settings.json
        verbose := c.verbose }

/-- The path of the configuration file, if one is given. -/
def path? (c : CommandLine) (home : Option String) : Except ConfigError (Option String) :=
  match c.config with
  | none => .ok none
  | some path =>
    match Path.expandTilde? (home.map String.toList) path.toList with
    | some expanded => .ok (some (String.ofList expanded))
    | none => .error (.noHome path)

/-- What reading the text of the file at a path comes to. -/
abbrev ReadText := List Char → Except SystemError (List Char)

/-- The settings of the configuration file at a path. -/
def readSettings (read : ReadText) (path : String) : Except ConfigError FileSettings :=
  match read path.toList with
  | .error cause => .error (.fileRead path cause)
  | .ok text =>
    match FileSettings.parse text with
    | .ok settings => .ok settings
    | .error cause => .error (.settings cause)

/-- The configuration that holds for a command line, with the configuration file that it names. -/
def load (compile : String → Option NameMatcher) (c : CommandLine) (home : Option String)
    (read : ReadText) : Except ConfigError Config := do
  match ← path? c home with
  | none => resolve compile c none
  | some path =>
    let settings ← readSettings read path
    resolve compile c (some settings)

/-- Writes the configuration file to begin with. -/
def writeTemplate (files : Files) (path : String) : Except ConfigError Files :=
  match files.write path.toList (Text.utf8 FileSettings.template.toList) with
  | .ok files => .ok files
  | .error cause => .error (.fileWrite path cause)

/-- The configuration as it is shown. -/
def shown (c : Config) : String :=
  String.join
    [ "Config \x7b ipv6: ", boolText c.flags.ipv6, ", loopback: ", boolText c.flags.loopback,
      ", down: ", boolText c.flags.down, ", slice: ", Text.decimal c.slice.wholeMillis,
      "ms, backoff: ", Text.decimal c.backoff.wholeMillis, "ms, json: ", boolText c.json,
      ", includes: ", Text.decimal c.filter.includes.length, ", excludes: ",
      Text.decimal c.filter.excludes.length, " \x7d" ]

end Config

end AddressWatch
