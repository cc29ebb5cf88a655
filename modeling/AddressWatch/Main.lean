/-
  AddressWatch.Main

  The program on a platform whose addresses cannot be read: arguments, environment, files and
  output.
-/

import AddressWatch.Monitor.Script
import AddressWatch.Program

namespace AddressWatch.Main

/-- A failure of a file operation. -/
def systemError : IO.Error → SystemError
  | .noFileOrDirectory _ number _ => .errno (Int32.ofNat number.toNat)
  | .permissionDenied _ number _ => .errno (Int32.ofNat number.toNat)
  | .inappropriateType _ number _ => .errno (Int32.ofNat number.toNat)
  | .resourceExhausted _ number _ => .errno (Int32.ofNat number.toNat)
  | e => .other (toString e)

/-- The text of a file. -/
def readText (path : String) : IO (Except SystemError (List Char)) := do
  try
    let bytes ← IO.FS.readBinFile path
    return Files.textOf bytes.toList
  catch e => return .error (systemError e)

/-- Writes the configuration file to begin with. -/
def writeTemplate (path : String) : IO (Except ConfigError Unit) := do
  try
    IO.FS.writeFile path FileSettings.template
    return .ok ()
  catch e => return .error (.fileWrite path (systemError e))

/-- Carries out a command with a valid configuration. -/
def carryOut (command : Command) (c : Config) : Completion :=
  match command with
  | .watch _ =>
    match Program.watchWith c unsupportedHost 1 () with
    | some r => r.completion
    | none => ⟨.ok (), "", []⟩
  | _ => Program.list c (.error .unsupported)

/-- Runs the program. -/
def run (args : List String) : IO Program.Ending := do
  match CommandLine.parse args with
  | .error e => return Program.refuse e
  | .ok c =>
    match c.command with
    | .init path => return Program.written .plain path (← writeTemplate path)
    | command =>
      let home := (← IO.getEnv "HOME").filter (! ·.isEmpty)
      let text ← match Config.path? c home with
        | .ok (some path) => readText path
        | _ => pure (.ok [])
      match Config.load Program.compile c home fun _ => text with
      | .error e => return Program.reject .plain e
      | .ok config =>
        return Program.finish (← IO.getEnv "RUST_LOG") config (carryOut command config)

end AddressWatch.Main

open AddressWatch in
/-- Runs the program and writes what it says. -/
def main (args : List String) : IO UInt32 := do
  let ending ← Main.run args
  IO.print (ending.output.getD "")
  for message in ending.messages do
    IO.eprintln message
  for line in ending.log do
    IO.eprintln line.shown
  return UInt32.ofNat ending.exitCode
