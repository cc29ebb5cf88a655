/-
  AddressWatch.Program

  The program: it lists the addresses once, watches them until it is asked to end, or writes a
  configuration file. Its exit code tells a wrong use or configuration from a failure at work.
-/

import AddressWatch.AddressList.Snapshot
import AddressWatch.Config
import AddressWatch.Linux.Subscription
import AddressWatch.Log.Filter
import AddressWatch.Pattern.Compile

namespace AddressWatch

/-- Why a command failed at work. -/
inductive RunError where
  /-- The addresses could not be listed. -/
  | enumeration (code : Int32)
  /-- The interface that was asked for has no address that is listed. -/
  | noAddress (interface : String)
  | monitor (cause : MonitorError)
  /-- The thread of the monitor broke down. -/
  | worker (cause : String)
  /-- The program cannot be told to end. -/
  | signalHandler (cause : SystemError)
  deriving DecidableEq

/-- The text of the error. -/
def RunError.message : RunError → String
  | .enumeration code =>
    "Address enumeration failed with code " ++ Text.signedDecimal code.toInt
  | .noAddress interface => "No address found for interface '" ++ interface ++ "'"
  | .monitor cause => "Monitor failed: " ++ cause.message
  | .worker cause => "Monitor thread ended abnormally: " ++ cause
  | .signalHandler cause => "Failed to install signal handler: " ++ cause.message

/-- What a command comes to: its result, what it printed and what it logged. -/
structure Completion where
  result : Except RunError Unit
  output : String
  log : List LogLine

namespace Program

/-! ## Listing -/

/-- A list in the form that is configured. -/
def render (json : Bool) (l : AddressList) : String :=
  if json then l.snapshotText ++ "\n" else l.text

/-- Lists the addresses of a table. -/
def list (c : Config) (table : Table) : Completion :=
  let addresses := table.enumerateWith c.filter.accepts
  let log := [table.logLine c.filter.accepts]
  if addresses.isError then
    ⟨.error (.enumeration addresses.errorCode), render c.json addresses, log⟩
  else
    match c.interface with
    | none => ⟨.ok (), render c.json addresses, log⟩
    | some name =>
      match addresses.findByInterface? name with
      | some r => ⟨.ok (), render c.json (.ofRecords [r]), log⟩
      | none => ⟨.error (.noAddress name), "", log⟩

/-! ## Watching -/

/-- An event in the form that is configured. -/
def renderEvent (json : Bool) (event : ChangeEvent) : String :=
  if json then event.toJson.text else event.text

/-- What is done with an event: it is printed if its interface is selected. -/
def receive (c : Config) (event : ChangeEvent) : Action :=
  if c.filter.acceptsName event.interface then .print (renderEvent c.json event)
  else .log ⟨.debug, .command, "Filtered out: " ++ event.text⟩

/-- What is done when the program is asked to end. -/
def signalled : List Action :=
  [.log ⟨.info, .command, "Shutdown signal received, stopping..."⟩, .shutdown]

/-- The line that says that the watch begins. -/
def watchBegins : LogLine := ⟨.info, .command, "Watching for address changes (Ctrl+C to stop)"⟩

/-- The line that says why the watch ended. -/
def watchFailed (e : MonitorError) : LogLine :=
  ⟨.error, .command, "Monitor stopped: " ++ e.message⟩

/-- What a watch comes to: its result and its effects in order. -/
structure Watched (σ : Type) where
  result : Except MonitorError Unit
  effects : List Effect
  world : σ

/-- Watches until the shutdown flag is raised or an error occurs; `none` if that takes `fuel`
rounds or more. -/
def watchWith {σ β : Type} (c : Config) (h : Host σ β) (fuel : Nat) (w : σ) :
    Option (Watched σ) :=
  let m := ((Monitor.new β).withSlice c.slice).withBackoff c.backoff
  let started := m.start h w
  match started.result with
  | .error e =>
    let (w, ended) := started.monitor.drop h started.world
    some ⟨.error e, started.effects ++ ended, w⟩
  | .ok () =>
    (started.monitor.processBlocking h fuel started.world).map fun s =>
      let complaint : List Effect := match s.result with
        | .error e => [.performed (.log (watchFailed e))]
        | .ok () => []
      let (w, ended) := s.monitor.drop h s.world
      ⟨s.result, started.effects ++ [.performed (.log watchBegins)] ++ s.effects ++ complaint ++ ended,
        w⟩

/-- The watch as a command. -/
def Watched.completion {σ : Type} (r : Watched σ) : Completion where
  result := r.result.mapError .monitor
  output := String.join ((Effect.printed r.effects).map (· ++ "\n"))
  log := Effect.logLines r.effects

/-- The subscription as the watch uses it. -/
def host [Route.OtherMessages] (c : Config) : Host (Linux.Kernel × Unit) Linux.Subscription :=
  Linux.Subscription.host (fun event r => ([receive c event], r)) signalled

/-- Watches the addresses; `none` only if the plan of the kernel does not bound the watch. -/
def watch? [Route.OtherMessages] (c : Config) (k : Linux.Kernel) :
    Option (Watched (Linux.Kernel × Unit)) :=
  watchWith c (host c) k.rounds (k, ())

/-! ## Endings -/

/-- How the program ends, and what it has written by then. -/
structure Ending where
  exitCode : Nat
  /-- What it printed, unless that is a help text. -/
  output : Option String
  /-- What it said on the side, apart from the log. -/
  messages : List String
  log : List LogLine

/-- The exit code of success. -/
def success : Nat := 0

/-- The exit code for a configuration that is not valid. -/
def configFailure : Nat := 1

/-- The exit code for a failure at work. -/
def runFailure : Nat := 2

/-- What a command line that is refused, or asks for help, comes to. -/
def refuse (e : UsageError) : Ending :=
  match e with
  | .help => ⟨e.exitCode, none, [], []⟩
  | .version => ⟨e.exitCode, some ((e.message?.getD "") ++ "\n"), [], []⟩
  | e => ⟨e.exitCode, some "", e.message?.toList, []⟩

/-- What a configuration that is not valid comes to. -/
def reject (wording : ConfigError.Wording) (e : ConfigError) : Ending :=
  let hint := match e.hint? with
    | some text => ["", text]
    | none => []
  ⟨configFailure, some "", ("Configuration error: " ++ e.message wording) :: hint, []⟩

/-- What writing a configuration file to a path comes to. -/
def written (wording : ConfigError.Wording) (path : String) : Except ConfigError Unit → Ending
  | .ok () => ⟨success, some ("Configuration template written to: " ++ path ++ "\n"), [], []⟩
  | .error e => ⟨configFailure, some "", ["Error: " ++ e.message wording], []⟩

/-- What a command that was carried out comes to. -/
def finish (logSelection : Option String) (c : Config) (done : Completion) : Ending :=
  let (filter, complaints) :=
    LogFilter.parse (if c.verbose then .debug else .info) (logSelection.getD "")
  let (exitCode, last) : Nat × List LogLine := match done.result with
    | .ok () => (success, [])
    | .error e => (runFailure, [⟨.error, .program, e.message⟩])
  let log := ⟨.debug, .program, c.shown⟩ :: done.log ++ last
  ⟨exitCode, some done.output, complaints, log.filter filter.shows⟩

/-! ## The whole program -/

/-- What the program is started with. -/
structure Environment where
  args : List String
  home : Option String
  files : Files
  /-- Which log lines are to be shown. -/
  logSelection : Option String
  wording : ConfigError.Wording
  kernel : Linux.Kernel

/-- What the program leaves behind. -/
structure Report where
  ending : Ending
  files : Files
  kernel : Linux.Kernel

/-- Patterns as name matchers. -/
def compile (pattern : String) : Option NameMatcher := (Pattern.parse? pattern).map Pattern.found

/-- Writes the configuration file to begin with. -/
def writeConfig (env : Environment) (path : String) : Report :=
  match Config.writeTemplate env.files path with
  | .ok files => ⟨written env.wording path (.ok ()), files, env.kernel⟩
  | .error e => ⟨written env.wording path (.error e), env.files, env.kernel⟩

/-- Carries out a command with a valid configuration; `none` only if a watch does not end. -/
def carryOut [Route.OtherMessages] (env : Environment) (command : Command) (c : Config) :
    Option Report :=
  match command with
  | .list _ =>
    let (interfaces, k) := env.kernel.interfaceList
    some ⟨finish env.logSelection c (list c (Unix.fetch interfaces)), env.files, k⟩
  | .watch _ =>
    (watch? c env.kernel).map fun r =>
      ⟨finish env.logSelection c r.completion, env.files, r.world.1⟩
  | .init _ => some ⟨finish env.logSelection c ⟨.ok (), "", []⟩, env.files, env.kernel⟩

/-- Runs the program; `none` only if a watch does not end. -/
def run [Route.OtherMessages] (env : Environment) : Option Report :=
  match CommandLine.parse env.args with
  | .error e => some ⟨refuse e, env.files, env.kernel⟩
  | .ok c =>
    match c.command with
    | .init path => some (writeConfig env path)
    | command =>
      match Config.load compile c env.home env.files.readText with
      | .error e => some ⟨reject env.wording e, env.files, env.kernel⟩
      | .ok config => carryOut env command config

end Program

end AddressWatch
