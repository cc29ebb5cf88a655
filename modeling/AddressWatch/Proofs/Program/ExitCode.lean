/-
  AddressWatch.Proofs.Program.ExitCode

  What the exit code says. It is 1 exactly if the configuration is at fault, or the configuration
  file to begin with cannot be written, and then nothing was asked of the system. It is 2 for a
  failure at work, but also for arguments that are refused before there is a configuration; and in
  every other case it is 0 (`exitCodes`).
-/

import AddressWatch.Proofs.Program.Listing

namespace AddressWatch

/-- Only the requests for help and for the version are no misuse. -/
theorem UsageError.exitCode_of_misuse {e : UsageError} (hhelp : e ≠ .help)
    (hversion : e ≠ .version) : e.exitCode = 2 := by
  cases e with
  | help => exact absurd rfl hhelp
  | version => exact absurd rfl hversion
  | _ => rfl

namespace Program

open Config (HasSettings Fault Prevails)
open Route (OtherMessages)

/-! ## What goes wrong -/

/-- The arguments make no command line, and ask for neither help nor the version. -/
def Refused (args : List String) : Prop :=
  ∃ e, CommandLine.parse args = .error e ∧ e ≠ .help ∧ e ≠ .version

/-- The configuration is at fault, or the configuration file to begin with cannot be written. -/
inductive Misconfigured (env : Environment) : Prop where
  | fault {cl : CommandLine} {e : ConfigError} (hparse : CommandLine.parse env.args = .ok cl)
      (hcommand : cl.isInit = false)
      (hfault : Fault cl env.home env.files.readText compile e)
  | unwritten {cl : CommandLine} {path : String} {cause : SystemError}
      (hparse : CommandLine.parse env.args = .ok cl) (hcommand : cl.command = .init path)
      (hwrite : env.files.write path.toList (Text.utf8 FileSettings.template.toList) =
        .error cause)

/-- The addresses cannot be listed, or the named interface has none that is selected. -/
inductive ListFails (table : Table) (selected : AddressRecord → Bool) (interface : Option String) :
    Prop where
  | enumeration {e : FetchError} (htable : table = .error e)
  | noAddress {rs : List AddressRecord} {name : String} (htable : table = .ok rs)
      (hinterface : interface = some name)
      (hnone : ∀ r ∈ rs, selected r = true → r.interface ≠ name)

/-- The socket does not open, or the watch ends otherwise than by being asked to. -/
inductive WatchFails [OtherMessages] (k : Linux.Kernel) : Prop where
  | unopened {f : Linux.OpenFailure} (hopening : k.openings.head?.join = some f)
  | broken (hends : k.endsBySignal = false)

/-- A command that may begin fails at work. -/
inductive FailsAtWork [OtherMessages] (env : Environment) : Prop where
  | list {cl : CommandLine} {o : ListOptions} {file : Option FileSettings}
      (hparse : CommandLine.parse env.args = .ok cl) (hcommand : cl.command = .list o)
      (hvalid : ¬ Misconfigured env) (hfile : HasSettings cl env.home env.files.readText file)
      (hfails :
        ListFails (Unix.fetch env.kernel.interfaces) (isListed o (file.getD {})) o.interface)
  | watch {cl : CommandLine} {o : WatchOptions}
      (hparse : CommandLine.parse env.args = .ok cl) (hcommand : cl.command = .watch o)
      (hvalid : ¬ Misconfigured env) (hfails : WatchFails env.kernel)

/-! ## How the program ends -/

/-- The exit code tells a failure at work from a success. -/
structure TellsFailure (fails : Prop) (code : Nat) : Prop where
  failed : fails → code = 2
  worked : ¬ fails → code = 0

section Endings

variable [OtherMessages]

/-- The program ends with the exit code. -/
def ExitsWith (env : Environment) (code : Nat) : Prop :=
  ∃ report, run env = some report ∧ report.ending.exitCode = code

/-- The program ends with the exit code, and neither makes a system call nor changes a file. -/
def ExitsEarly (env : Environment) (code : Nat) : Prop :=
  ∃ ending, run env = some ⟨ending, env.files, env.kernel⟩ ∧ ending.exitCode = code

theorem ExitsEarly.exitsWith {env : Environment} {code : Nat} (hexits : ExitsEarly env code) :
    ExitsWith env code := by
  obtain ⟨ending, hrun, hcode⟩ := hexits
  exact ⟨_, hrun, hcode⟩

theorem ExitsEarly.untouched {env : Environment} {code : Nat} {report : Report}
    (hexits : ExitsEarly env code) (hrun : run env = some report) :
    report.files = env.files ∧ report.kernel = env.kernel := by
  obtain ⟨ending, hrun', -⟩ := hexits
  rw [hrun] at hrun'
  cases hrun'
  exact ⟨rfl, rfl⟩

theorem ExitsWith.eq {env : Environment} {code : Nat} {report : Report}
    (hexits : ExitsWith env code) (hrun : run env = some report) :
    report.ending.exitCode = code := by
  obtain ⟨report', hrun', hcode⟩ := hexits
  rw [hrun] at hrun'
  cases hrun'
  exact hcode

end Endings

/-! ## Before work -/

section BeforeWork

variable {env : Environment}

theorem exitCode_refuse (e : UsageError) : (refuse e).exitCode = e.exitCode := by
  cases e <;> rfl

theorem writeConfig_of_written {path : String} {files : Files}
    (hwrite : env.files.write path.toList (Text.utf8 FileSettings.template.toList) = .ok files) :
    writeConfig env path = ⟨written env.wording path (.ok ()), files, env.kernel⟩ := by
  rw [writeConfig, Config.writeTemplate, hwrite]

theorem writeConfig_of_unwritten {path : String} {cause : SystemError}
    (hwrite : env.files.write path.toList (Text.utf8 FileSettings.template.toList) =
      .error cause) :
    writeConfig env path =
      ⟨written env.wording path (.error (.fileWrite path cause)), env.files, env.kernel⟩ := by
  rw [writeConfig, Config.writeTemplate, hwrite]

variable [OtherMessages]

/-- Refused arguments, help and the version are answered without any configuration. -/
theorem run_of_error {e : UsageError} (hparse : CommandLine.parse env.args = .error e) :
    run env = some ⟨refuse e, env.files, env.kernel⟩ := by
  simp only [run, hparse]

theorem exitsEarly_of_refused (hrefused : Refused env.args) : ExitsEarly env 2 := by
  obtain ⟨e, hparse, hhelp, hversion⟩ := hrefused
  refine ⟨_, run_of_error hparse, ?_⟩
  rw [exitCode_refuse, UsageError.exitCode_of_misuse hhelp hversion]

theorem run_of_fault {cl : CommandLine} {e : ConfigError}
    (hparse : CommandLine.parse env.args = .ok cl) (hcommand : cl.isInit = false)
    (hfault : Fault cl env.home env.files.readText compile e) :
    run env = some ⟨reject env.wording e, env.files, env.kernel⟩ := by
  have hload := Config.load_of_fault hfault
  rw [CommandLine.isInit] at hcommand
  rw [run, hparse]
  cases hcl : cl.command with
  | init path =>
      rw [hcl] at hcommand
      cases hcommand
  | list o => simp only [hcl, hload]
  | watch o => simp only [hcl, hload]

theorem run_of_init {cl : CommandLine} {path : String}
    (hparse : CommandLine.parse env.args = .ok cl) (hcommand : cl.command = .init path) :
    run env = some (writeConfig env path) := by
  simp only [run, hparse, hcommand]

theorem exitsEarly_of_misconfigured (hmisconfigured : Misconfigured env) : ExitsEarly env 1 := by
  cases hmisconfigured with
  | @fault _ e hparse hcommand hfault =>
      exact ⟨reject env.wording e, run_of_fault hparse hcommand hfault, rfl⟩
  | @unwritten _ path cause hparse hcommand hwrite =>
      refine ⟨written env.wording path (.error (.fileWrite path cause)), ?_, rfl⟩
      rw [run_of_init hparse hcommand, writeConfig_of_unwritten hwrite]

end BeforeWork

/-! ## At work -/

theorem ListEnds.tellsFailure {table : Table} {selected : AddressRecord → Bool}
    {interface : Option String} {json : Bool} {ending : Ending}
    (hends : ListEnds table selected interface json ending) :
    TellsFailure (ListFails table selected interface) ending.exitCode where
  failed := by
    rintro (htable | ⟨htable, hinterface, hnone⟩)
    · exact (hends.failed _ htable).2
    · exact (hends.missing _ _ htable hinterface hnone).2
  worked := by
    intro hworks
    cases htable : table with
    | error e => exact absurd (.enumeration htable) hworks
    | ok rs =>
        cases hinterface : interface with
        | none => exact (hends.whole rs htable hinterface).2
        | some name =>
            cases hfound : (rs.filter selected).find? (·.interface == name) with
            | none =>
                have hnone := find?_eq_none_iff.mp hfound
                exact absurd (.noAddress htable hinterface hnone) hworks
            | some r => exact (hends.found rs name r htable hinterface hfound).2

theorem WatchEnds.tellsFailure [OtherMessages] {k : Linux.Kernel} {json : Bool}
    {selected : List ChangeEvent} {ending : Ending} (hends : WatchEnds k json selected ending) :
    TellsFailure (WatchFails k) ending.exitCode where
  failed := by
    intro hfails
    cases hopening : k.openings.head?.join with
    | some f => exact (hends.unopened f hopening).2
    | none =>
        -- The socket opens, so the watch was broken off.
        cases hfails with
        | unopened hunopened =>
            rw [hopening] at hunopened
            cases hunopened
        | broken hbroken =>
            have hcode := (hends.opened hopening).2
            rw [hbroken] at hcode
            exact hcode
  worked := by
    intro hworks
    cases hopening : k.openings.head?.join with
    | some f => exact absurd (.unopened hopening) hworks
    | none =>
        have hcode := (hends.opened hopening).2
        cases hsignal : k.endsBySignal with
        | false => exact absurd (.broken hsignal) hworks
        | true =>
            rw [hsignal] at hcode
            exact hcode

section AtWork

variable {env : Environment} {cl : CommandLine}

/-- A list or watch without a fault has its configuration. -/
theorem exists_load (hparse : CommandLine.parse env.args = .ok cl) (hcommand : cl.isInit = false)
    (hvalid : ¬ Misconfigured env) :
    ∃ c file, Config.load compile cl env.home env.files.readText = .ok c ∧
      HasSettings cl env.home env.files.readText file ∧
      Prevails compile cl.command.request (file.getD {}) c := by
  rcases Config.prevails_or_fault compile cl env.home env.files.readText with hprevails | hfault
  · exact hprevails
  · obtain ⟨e, he⟩ := hfault
    exact absurd (.fault hparse hcommand he) hvalid

variable [OtherMessages]

theorem exitCode_of_list {o : ListOptions} (hparse : CommandLine.parse env.args = .ok cl)
    (hcommand : cl.command = .list o) (hvalid : ¬ Misconfigured env) :
    ∃ report file, run env = some report ∧ HasSettings cl env.home env.files.readText file ∧
      TellsFailure
        (ListFails (Unix.fetch env.kernel.interfaces) (isListed o (file.getD {})) o.interface)
        report.ending.exitCode := by
  have hinit : cl.isInit = false := by
    rw [CommandLine.isInit, hcommand]
  obtain ⟨c, file, hload, hfile, hprevails⟩ := exists_load hparse hinit hvalid
  rw [hcommand] at hprevails
  have hends := listEnds_of_prevails hprevails env.logSelection (Unix.fetch env.kernel.interfaces)
  exact ⟨_, file, run_of_list hparse hcommand hload, hfile, hends.tellsFailure⟩

theorem exitCode_of_watch {o : WatchOptions} (hparse : CommandLine.parse env.args = .ok cl)
    (hcommand : cl.command = .watch o) (hvalid : ¬ Misconfigured env)
    (hs : env.kernel.signalled = false) :
    ∃ report, run env = some report ∧
      TellsFailure (WatchFails env.kernel) report.ending.exitCode := by
  have hinit : cl.isInit = false := by
    rw [CommandLine.isInit, hcommand]
  obtain ⟨c, -, hload, -, -⟩ := exists_load hparse hinit hvalid
  obtain ⟨r, hr, hends⟩ := exists_watch? c hs env.logSelection
  refine ⟨⟨finish env.logSelection c r.completion, env.files, r.world.1⟩, ?_,
    hends.tellsFailure⟩
  rw [run_of_watch hparse hcommand hload, hr]
  rfl

theorem exitsWith_of_failsAtWork (hs : env.kernel.signalled = false) (hfails : FailsAtWork env) :
    ExitsWith env 2 := by
  cases hfails with
  | list hparse hcommand hvalid hfile hfails =>
      obtain ⟨report, file', hrun, hfile', htells⟩ := exitCode_of_list hparse hcommand hvalid
      obtain rfl := hfile.unique hfile'
      exact ⟨report, hrun, htells.failed hfails⟩
  | watch hparse hcommand hvalid hfails =>
      obtain ⟨report, hrun, htells⟩ := exitCode_of_watch hparse hcommand hvalid hs
      exact ⟨report, hrun, htells.failed hfails⟩

/-- What is neither refused nor at fault, and does not fail at work, succeeds. -/
theorem exitsWith_of_success (hs : env.kernel.signalled = false) (hvalid : ¬ Misconfigured env)
    (haccepted : ¬ Refused env.args) (hworks : ¬ FailsAtWork env) : ExitsWith env 0 := by
  cases hparse : CommandLine.parse env.args with
  | error e =>
      -- What makes no command line and is not refused asks for help or the version.
      refine ⟨_, run_of_error hparse, ?_⟩
      rw [exitCode_refuse]
      by_cases hhelp : e = .help
      · rw [hhelp]
        rfl
      · by_cases hversion : e = .version
        · rw [hversion]
          rfl
        · exact absurd ⟨e, hparse, hhelp, hversion⟩ haccepted
  | ok cl =>
      cases hcommand : cl.command with
      | init path =>
          cases hwrite : env.files.write path.toList (Text.utf8 FileSettings.template.toList) with
          | error cause => exact absurd (.unwritten hparse hcommand hwrite) hvalid
          | ok files =>
              refine ⟨⟨written env.wording path (.ok ()), files, env.kernel⟩, ?_, rfl⟩
              rw [run_of_init hparse hcommand, writeConfig_of_written hwrite]
      | list o =>
          obtain ⟨report, file, hrun, hfile, htells⟩ := exitCode_of_list hparse hcommand hvalid
          have hlists : ¬ ListFails (Unix.fetch env.kernel.interfaces)
              (isListed o (file.getD {})) o.interface :=
            fun hfails => hworks (.list hparse hcommand hvalid hfile hfails)
          exact ⟨report, hrun, htells.worked hlists⟩
      | watch o =>
          obtain ⟨report, hrun, htells⟩ := exitCode_of_watch hparse hcommand hvalid hs
          have hwatches : ¬ WatchFails env.kernel :=
            fun hfails => hworks (.watch hparse hcommand hvalid hfails)
          exact ⟨report, hrun, htells.worked hwatches⟩

end AtWork

/-! ## The exit code -/

/-- What goes wrong, or that nothing does, decides the exit code. -/
theorem exists_run [OtherMessages] {env : Environment} (hs : env.kernel.signalled = false) :
    ∃ report, run env = some report ∧
      (Misconfigured env → report.ending.exitCode = 1) ∧
      (Refused env.args ∨ FailsAtWork env → report.ending.exitCode = 2) ∧
      (¬ Misconfigured env → ¬ (Refused env.args ∨ FailsAtWork env) →
        report.ending.exitCode = 0) ∧
      (Misconfigured env ∨ Refused env.args →
        report.files = env.files ∧ report.kernel = env.kernel) := by
  have hone (hm : Misconfigured env) : ExitsWith env 1 := (exitsEarly_of_misconfigured hm).exitsWith
  have htwo (hf : Refused env.args ∨ FailsAtWork env) : ExitsWith env 2 := by
    rcases hf with hrefused | hfails
    · exact (exitsEarly_of_refused hrefused).exitsWith
    · exact exitsWith_of_failsAtWork hs hfails
  have hzero (hm : ¬ Misconfigured env) (hf : ¬ (Refused env.args ∨ FailsAtWork env)) :
      ExitsWith env 0 := by
    obtain ⟨haccepted, hworks⟩ := not_or.mp hf
    exact exitsWith_of_success hs hm haccepted hworks
  obtain ⟨code, report, hrun, -⟩ : ∃ code, ExitsWith env code := by
    by_cases hm : Misconfigured env
    · exact ⟨1, hone hm⟩
    · by_cases hf : Refused env.args ∨ FailsAtWork env
      · exact ⟨2, htwo hf⟩
      · exact ⟨0, hzero hm hf⟩
  refine ⟨report, hrun, fun hm => (hone hm).eq hrun, fun hf => (htwo hf).eq hrun,
    fun hm hf => (hzero hm hf).eq hrun, ?_⟩
  rintro (hm | hrefused)
  · exact (exitsEarly_of_misconfigured hm).untouched hrun
  · exact (exitsEarly_of_refused hrefused).untouched hrun

/-- **The exit code.** Unless the process was asked to end before it began, the program ends: with 1
exactly if the configuration is at fault or cannot be written, with 2 exactly if the arguments are
refused or a command fails at work, and with 0 in every other case. What is refused or at fault
makes no system call and changes no file. -/
theorem exitCodes [OtherMessages] (env : Environment) (hs : env.kernel.signalled = false) :
    ∃ report, run env = some report ∧
      (report.ending.exitCode = 1 ↔ Misconfigured env) ∧
      (report.ending.exitCode = 2 ↔ Refused env.args ∨ FailsAtWork env) ∧
      (report.ending.exitCode = 0 ↔
        ¬ Misconfigured env ∧ ¬ (Refused env.args ∨ FailsAtWork env)) ∧
      (Misconfigured env ∨ Refused env.args →
        report.files = env.files ∧ report.kernel = env.kernel) := by
  obtain ⟨report, hrun, hone, htwo, hzero, huntouched⟩ := exists_run hs
  -- The codes differ, so that of two things that decide the code only one can be the case.
  refine ⟨report, hrun, ⟨fun hcode => ?_, hone⟩, ⟨fun hcode => ?_, htwo⟩,
    ⟨fun hcode => ⟨fun hm => ?_, fun hf => ?_⟩, fun h => hzero h.1 h.2⟩, huntouched⟩
  · by_contra hm
    have hf : ¬ (Refused env.args ∨ FailsAtWork env) := fun hf => by
      have := htwo hf
      omega
    have := hzero hm hf
    omega
  · by_contra hf
    have hm : ¬ Misconfigured env := fun hm => by
      have := hone hm
      omega
    have := hzero hm hf
    omega
  · have := hone hm
    omega
  · have := htwo hf
    omega

/-- A watch that is to wait for no time at all. -/
def zeroWatch : Environment := environmentOf ["watch", "--slice-ms", "0"] (.error 12)

/-- A configuration file that is to be written into a directory that is not there. -/
def lostTemplate : Environment := environmentOf ["init", "-o", "conf/netut.toml"] (.error 12)

/-- A list that the system does not answer. -/
def unansweredList : Environment := environmentOf ["list"] (.error 12)

section

attribute [local instance] OtherMessages.framing

/-- What is at fault ends with 1 and leaves everything as it is; what fails at work ends with 2. -/
theorem exitCodes_of_faults_and_failure :
    (∃ report, run zeroWatch = some report ∧ report.ending.exitCode = 1 ∧
      report.kernel.calls = []) ∧
    (∃ report, run lostTemplate = some report ∧ report.ending.exitCode = 1 ∧
      report.files = ⟨[]⟩) ∧
    ∃ report, run unansweredList = some report ∧ report.ending.exitCode = 2 := by
  have hwatch : CommandLine.parse zeroWatch.args =
      .ok ⟨.watch { timing := { slice := some 0 } }, none, false⟩ := by decide +kernel
  have hinit : CommandLine.parse lostTemplate.args =
      .ok ⟨.init "conf/netut.toml", none, false⟩ := by decide +kernel
  have hlist : CommandLine.parse unansweredList.args = .ok ⟨.list {}, none, false⟩ := by
    decide +kernel
  refine ⟨?_, ?_, ?_⟩
  · have hfault : Misconfigured zeroWatch := .fault hwatch rfl (.zero (.unnamed rfl) rfl rfl)
    obtain ⟨report, hrun, hone, -, -, huntouched⟩ := exitCodes zeroWatch rfl
    refine ⟨report, hrun, hone.mpr hfault, ?_⟩
    rw [(huntouched (.inl hfault)).2]
    rfl
  · have hwrite : lostTemplate.files.write "conf/netut.toml".toList
        (Text.utf8 FileSettings.template.toList) = .error (.errno Files.notFound) := by
      decide +kernel
    have hunwritten : Misconfigured lostTemplate := .unwritten hinit rfl hwrite
    obtain ⟨report, hrun, hone, -, -, huntouched⟩ := exitCodes lostTemplate rfl
    exact ⟨report, hrun, hone.mpr hunwritten, (huntouched (.inl hunwritten)).1⟩
  · have hvalid : ¬ Misconfigured unansweredList := by
      rintro (⟨hparse, -, hfault⟩ | ⟨hparse, hcommand, -⟩)
      · cases Except.ok.inj (hlist.symm.trans hparse)
        cases Config.load_of_fault hfault
      · cases Except.ok.inj (hlist.symm.trans hparse)
        cases hcommand
    have hfails : FailsAtWork unansweredList :=
      .list hlist rfl hvalid (.unnamed rfl) (.enumeration rfl)
    obtain ⟨report, hrun, -, htwo, -⟩ := exitCodes unansweredList rfl
    exact ⟨report, hrun, htwo.mpr (.inr hfails)⟩

/-- A list with an option that is none. -/
def unknownOption : Environment := environmentOf ["list", "--nope"] (.ok [])

/-- Arguments that are refused do not end the program as a configuration that is at fault does. -/
theorem exitCode_ne_configFailure_of_unknown_option :
    ∃ report, run unknownOption = some report ∧ Refused unknownOption.args ∧
      report.ending.exitCode = runFailure ∧ report.ending.exitCode ≠ configFailure := by
  have hparse : CommandLine.parse unknownOption.args =
      .error (.unexpectedArgument "--nope") := by decide +kernel
  have hrefused : Refused unknownOption.args := ⟨_, hparse, nofun, nofun⟩
  obtain ⟨ending, hrun, hcode⟩ := exitsEarly_of_refused hrefused
  refine ⟨_, hrun, hrefused, hcode, ?_⟩
  show ending.exitCode ≠ 1
  omega

end

end Program

end AddressWatch
