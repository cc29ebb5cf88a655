/-
  AddressWatch.CommandLine.Option

  The options of the command line, which commands have them, and why a command line is refused.
-/

import AddressWatch.Text.Numeral

namespace AddressWatch

/-- An option of the command line. -/
inductive CliOption where
  | config
  | verbose
  | help
  | version
  | ipv6
  | loopback
  | down
  | json
  | interface
  | includeInterface
  | excludeInterface
  | sliceMs
  | backoffMs
  | output
  deriving DecidableEq, Repr

namespace CliOption

/-- The name of an option behind two hyphens. -/
def long : CliOption → String
  | .config => "config"
  | .verbose => "verbose"
  | .help => "help"
  | .version => "version"
  | .ipv6 => "ipv6"
  | .loopback => "loopback"
  | .down => "down"
  | .json => "json"
  | .interface => "interface"
  | .includeInterface => "include-interface"
  | .excludeInterface => "exclude-interface"
  | .sliceMs => "slice-ms"
  | .backoffMs => "backoff-ms"
  | .output => "output"

/-- The letter of an option behind one hyphen, if it has one. -/
def short? : CliOption → Option Char
  | .config => some 'c'
  | .verbose => some 'v'
  | .help => some 'h'
  | .version => some 'V'
  | .output => some 'o'
  | _ => none

/-- What the value of an option is called, if it has a value. -/
def value? : CliOption → Option String
  | .config => some "CONFIG"
  | .interface => some "NAME"
  | .includeInterface | .excludeInterface => some "PATTERN"
  | .sliceMs | .backoffMs => some "MS"
  | .output => some "OUTPUT"
  | _ => none

/-- Whether an option may be given more than once. -/
def repeatable : CliOption → Bool
  | .includeInterface | .excludeInterface => true
  | _ => false

/-- An option as messages show it. -/
def shown (o : CliOption) : String :=
  "--" ++ o.long ++
    match o.value? with
    | some name => " <" ++ name ++ ">"
    | none => ""

end CliOption

/-- The parts of a command line that have options of their own. -/
inductive CliScope where
  /-- In front of the command. -/
  | main
  | list
  | watch
  | init
  deriving DecidableEq, Repr

/-- The options of a part of the command line. -/
def CliScope.options : CliScope → List CliOption
  | .main => [.config, .verbose, .help, .version]
  | .list =>
    [.ipv6, .loopback, .down, .json, .interface, .includeInterface, .excludeInterface, .config, .verbose,
      .help]
  | .watch =>
    [.sliceMs, .backoffMs, .json, .includeInterface, .excludeInterface, .config, .verbose, .help]
  | .init => [.output, .config, .verbose, .help]

/-- Why a text is no number of 64 bits. -/
inductive NumberFault where
  | empty
  | invalidDigit
  | tooLarge
  deriving DecidableEq, Repr

/-- The text of the fault. -/
def NumberFault.message : NumberFault → String
  | .empty => "cannot parse integer from empty string"
  | .invalidDigit => "invalid digit found in string"
  | .tooLarge => "number too large to fit in target type"

/-- Reads decimal digits after those of value `n`; the first fault counts. -/
def readWord64From (n : Nat) : List Char → Except NumberFault UInt64
  | [] => .ok (UInt64.ofNat n)
  | c :: rest =>
    match Text.digitValue? 10 c with
    | none => .error .invalidDigit
    | some d => if n * 10 + d < UInt64.size then readWord64From (n * 10 + d) rest else .error .tooLarge

/-- Reads a decimal number of 64 bits, with or without a plus sign. -/
def readWord64 (text : String) : Except NumberFault UInt64 :=
  match text.toList with
  | [] => .error .empty
  | ['+'] => .error .invalidDigit
  | '+' :: digits => readWord64From 0 digits
  | digits => readWord64From 0 digits

/-- Why a command line is refused, or what it asks for instead of a command. -/
inductive UsageError where
  /-- The command line asks for help. -/
  | help
  /-- The command line is empty. -/
  | nothingGiven
  /-- The command line asks for the version. -/
  | version
  | missingCommand
  | unknownCommand (name : String)
  | unexpectedArgument (text : String)
  /-- An option that may be given once is given again. -/
  | repeated (option : CliOption)
  | missingValue (option : CliOption)
  /-- A value is attached to an option that has none. -/
  | needlessValue (option : CliOption) (value : String)
  | invalidValue (option : CliOption) (value : String) (fault : NumberFault)
  deriving DecidableEq, Repr

namespace UsageError

/-- The exit code of a program that is called so. -/
def exitCode : UsageError → Nat
  | .help | .version => 0
  | _ => 2

/-- The first line of a text that may have more. -/
def firstLine (text : String) : String :=
  let line := text.toList.takeWhile (· ≠ '\n')
  if line.length < text.toList.length ∧ line.getLast? = some '\r' then String.ofList line.dropLast
  else String.ofList line

/-- A text between apostrophes. -/
def quote (text : String) : String := "'" ++ text ++ "'"

/-- What is said about the command line, apart from help texts. -/
def text? : UsageError → Option String
  | .help | .nothingGiven => none
  | .version => some "netut 0.1.0"
  | .missingCommand => some "error: 'netut' requires a subcommand but one was not provided"
  | .unknownCommand name => some ("error: unrecognized subcommand " ++ quote name)
  | .unexpectedArgument text => some ("error: unexpected argument " ++ quote text ++ " found")
  | .repeated o =>
    some ("error: the argument " ++ quote o.shown ++ " cannot be used multiple times")
  | .missingValue o =>
    some ("error: a value is required for " ++ quote o.shown ++ " but none was supplied")
  | .needlessValue o value =>
    some ("error: unexpected value " ++ quote value ++ " for " ++ quote o.shown
      ++ " found; no more were expected")
  | .invalidValue o value fault =>
    some ("error: invalid value " ++ quote value ++ " for " ++ quote o.shown ++ ": " ++ fault.message)

/-- The first line of what is said about the command line. -/
def message? (e : UsageError) : Option String := e.text?.map firstLine

end UsageError

end AddressWatch
