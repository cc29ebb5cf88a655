/-
  AddressWatch.Log

  Log lines: how grave they are, which part of the program writes them, and how they are shown.
-/

import AddressWatch.Text.Numeral

namespace AddressWatch

/-- How grave a log line is. -/
inductive Level where
  | error
  | warn
  | info
  | debug
  deriving DecidableEq, Repr

namespace Level

/-- The place of a level, counted from the gravest, which has 1. -/
def rank : Level → Nat
  | .error => 1
  | .warn => 2
  | .info => 3
  | .debug => 4

/-- The label a line of this level begins with. -/
def label : Level → String
  | .error => "ERROR"
  | .warn => "WARN"
  | .info => "INFO"
  | .debug => "DEBUG"

end Level

/-- The part of the program that writes a log line. -/
inductive LogSource where
  | program
  | command
  | enumeration
  | monitor
  | subscription
  | datagram
  deriving DecidableEq, Repr

/-- The path by which the lines of a part are selected. -/
def LogSource.path : LogSource → String
  | .program => "netut"
  | .command => "netut::run"
  | .enumeration => "netut::network::fetcher"
  | .monitor => "netut::monitor::driver"
  | .subscription => "netut::monitor::platform::linux"
  | .datagram => "netut::monitor::platform::netlink"

/-- One log line. -/
structure LogLine where
  level : Level
  source : LogSource
  text : String
  deriving DecidableEq, Repr

/-- The characters that stand for `c` in a log line. Those that a terminal obeys are written out. -/
def logChar (c : Char) : List Char :=
  let n := c.toNat
  if n = 7 ∨ n = 8 ∨ n = 12 ∨ n = 27 ∨ n = 127 then
    ['\\', 'x'] ++ Text.padZeros 2 (Text.numeral 16 n)
  else if 0x80 ≤ n ∧ n ≤ 0x9F then ['\\', 'u', '\x7b'] ++ Text.numeral 16 n ++ ['\x7d']
  else [c]

/-- The line as it is shown, without its time. -/
def LogLine.shown (line : LogLine) : String :=
  line.level.label ++ " " ++ String.ofList (line.text.toList.flatMap logChar)

end AddressWatch
