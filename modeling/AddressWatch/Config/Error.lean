/-
  AddressWatch.Config.Error

  Why there is no valid configuration, and what helps.
-/

import AddressWatch.Config.FileSettings
import AddressWatch.SystemError

namespace AddressWatch

/-- Why there is no valid configuration, or why none could be written. -/
inductive ConfigError where
  | fileRead (path : String) (cause : SystemError)
  | fileWrite (path : String) (cause : SystemError)
  /-- The configuration file gives no settings. -/
  | settings (cause : SettingsError)
  | invalidPattern (pattern : String)
  /-- A time that has to be positive is zero. -/
  | zeroDuration (field : String)
  /-- The path begins with `~` and there is no home directory. -/
  | noHome (path : String)
  deriving DecidableEq

namespace ConfigError

/-- What the readers of settings and of patterns say of what they refuse. -/
structure Wording where
  settings : SettingsError → String
  pattern : String → String

/-- No more words than the errors have by themselves. -/
def Wording.plain : Wording where
  settings cause := cause.detail?.getD "not a settings text"
  pattern _ := "not a pattern"

/-- What is wrong with a time of zero. -/
def zeroReason : String := "must be greater than 0"

/-- The text of the error. -/
def message (wording : Wording) : ConfigError → String
  | .fileRead path cause => "Failed to read config file '" ++ path ++ "': " ++ cause.message
  | .fileWrite path cause => "Failed to write config file '" ++ path ++ "': " ++ cause.message
  | .settings cause => "Failed to parse TOML config: " ++ wording.settings cause
  | .invalidPattern pattern =>
    "Invalid regex pattern '" ++ pattern ++ "': " ++ wording.pattern pattern
  | .zeroDuration field => "Invalid duration for " ++ field ++ ": " ++ zeroReason
  | .noHome path => "Cannot expand '" ++ path ++ "': home directory is unknown"

/-- What helps, where something is known to help. -/
def hint? : ConfigError → Option String
  | .fileRead _ _ | .settings _ =>
    some "Run 'netut init' to generate a configuration template."
  | .invalidPattern _ =>
    some "Interface patterns use Rust regex syntax, e.g. '^eth' or '^(en|wl)'."
  | _ => none

end ConfigError

end AddressWatch
