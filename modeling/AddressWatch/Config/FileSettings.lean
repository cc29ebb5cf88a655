/-
  AddressWatch.Config.FileSettings

  The settings that a configuration file can give, how they are read from its text, and the text
  of the file that is written as a beginning. That text says of every setting what holds without
  it, so that it changes nothing.
-/

import AddressWatch.Filter
import AddressWatch.Toml.Parser
import AddressWatch.Toml.Section

namespace AddressWatch

/-- Patterns of the names of interfaces that are included and excluded. -/
structure NamePatterns where
  includes : List String := []
  excludes : List String := []
  deriving DecidableEq, Repr

/-- Times of the watch in milliseconds, where they are given. -/
structure Timing where
  slice : Option UInt64 := none
  backoff : Option UInt64 := none
  deriving DecidableEq, Repr

/-- The settings of a configuration file. -/
structure FileSettings where
  flags : InclusionFlags := {}
  names : NamePatterns := {}
  timing : Timing := {}
  json : Bool := false
  deriving DecidableEq, Repr

/-- Why a text gives no settings. -/
inductive SettingsError where
  /-- The text is no settings text at all. -/
  | malformed
  /-- A value does not fit. -/
  | data (e : Toml.DecodeError)
  deriving DecidableEq, Repr

/-- What does not fit, where the text is a settings text. -/
def SettingsError.detail? : SettingsError → Option String
  | .malformed => none
  | .data e => e.message?

namespace FileSettings

/-- The section about what an enumeration includes. -/
def enumerateSection : Toml.Section InclusionFlags where
  name := "EnumerateSection"
  fields :=
    [ ⟨"include_ipv6", fun v a => (Toml.readBoolean v).map ({ a with ipv6 := · }), true⟩,
      ⟨"include_loopback", fun v a => (Toml.readBoolean v).map ({ a with loopback := · }), true⟩,
      ⟨"include_down", fun v a => (Toml.readBoolean v).map ({ a with down := · }), true⟩ ]

/-- The section about the names of interfaces. -/
def filterSection : Toml.Section NamePatterns where
  name := "FilterSection"
  fields :=
    [ ⟨"include", fun v a => (Toml.readTexts v).map ({ a with includes := · }), true⟩,
      ⟨"exclude", fun v a => (Toml.readTexts v).map ({ a with excludes := · }), true⟩ ]

/-- The section about the times of the watch. -/
def monitorSection : Toml.Section Timing where
  name := "MonitorSection"
  fields :=
    [ ⟨"slice_ms", fun v a => (Toml.readWord64 v).map ({ a with slice := some · }), false⟩,
      ⟨"interrupt_backoff_ms", fun v a => (Toml.readWord64 v).map ({ a with backoff := some · }),
        false⟩ ]

/-- The section about the form of the output. -/
def outputSection : Toml.Section Bool where
  name := "OutputSection"
  fields := [ ⟨"json", fun v _ => Toml.readBoolean v, true⟩ ]

/-- The sections of a configuration file. -/
def sections : Toml.Section FileSettings where
  name := "Settings"
  fields :=
    [ ⟨"enumerate", fun v a => (enumerateSection.read v a.flags).map ({ a with flags := · }), true⟩,
      ⟨"filter", fun v a => (filterSection.read v a.names).map ({ a with names := · }), true⟩,
      ⟨"monitor", fun v a => (monitorSection.read v a.timing).map ({ a with timing := · }), true⟩,
      ⟨"output", fun v a => (outputSection.read v a.json).map ({ a with json := · }), true⟩ ]

/-- The settings that a text gives. -/
def parse (text : List Char) : Except SettingsError FileSettings :=
  match Toml.parse? text with
  | none => .error .malformed
  | some entries =>
    match sections.read (.table .opened entries) {} with
    | .ok settings => .ok settings
    | .error e => .error (.data e)

/-- The lines of the file that is written as a beginning. -/
def templateLines : List String :=
  [ "# netut Configuration File",
    "",
    "[enumerate]",
    "# Include IPv6 addresses in `netut list` (or pass --ipv6)",
    "include_ipv6 = false",
    "",
    "# Include loopback interfaces (or pass --loopback)",
    "include_loopback = false",
    "",
    "# Include interfaces that are down (or pass --down)",
    "include_down = false",
    "",
    "[filter]",
    "# Regex patterns for interfaces to include (empty = all)",
    "# Note: CLI patterns REPLACE these entirely (not merged)",
    "# include = [\"^eth\", \"^en\"]",
    "",
    "# Regex patterns for interfaces to exclude",
    "# Note: CLI patterns REPLACE these entirely (not merged)",
    "# exclude = [\"^docker\", \"^veth\"]",
    "",
    "[monitor]",
    "# Longest single wait of `netut watch` in milliseconds (default: 1000)",
    "slice_ms = 1000",
    "",
    "# Sleep after an interrupted wait in milliseconds (default: 500)",
    "interrupt_backoff_ms = 500",
    "",
    "[output]",
    "# Print JSON instead of text (or pass --json)",
    "json = false" ]

/-- The text of the file that is written as a beginning. -/
def template : String := String.join (templateLines.map (· ++ "\n"))

end FileSettings

end AddressWatch
