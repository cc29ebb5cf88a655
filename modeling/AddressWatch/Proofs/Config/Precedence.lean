/-
  AddressWatch.Proofs.Config.Precedence

  What holds where the command, the configuration file and the defaults disagree. Patterns and times
  of the command take the place of those of the file, and flags are set in either. The patterns that
  hold are compiled in order, the included ones first, before the time of a wait is looked at; what
  is overridden is not looked at at all (`precedence`).
-/

import AddressWatch.Proofs.Config.Resolve
import Mathlib.Data.List.Forall2

namespace AddressWatch

/-- What a command asks for, as far as a configuration depends on it. -/
structure Request where
  flags : InclusionFlags := {}
  json : Bool := false
  interface : Option String := none
  names : NamePatterns := {}
  timing : Timing := {}

/-- What a command asks for: only the list has flags and an interface, and only the watch has
times. -/
def Command.request : Command → Request
  | .list o => { flags := o.flags, json := o.json, interface := o.interface, names := o.names }
  | .watch o => { json := o.json, names := o.names, timing := o.timing }
  | .init _ => {}

theorem CommandLine.request_eq (cl : CommandLine) :
    cl.command.request = ⟨cl.flags, cl.json, cl.interface?, cl.names, cl.timing⟩ := by
  rw [flags, json, interface?, names, timing]
  cases cl.command <;> rfl

namespace Config

variable (compile : String → Option NameMatcher)

/-! ## The patterns that hold -/

/-- The patterns that hold: for each kind those of the command, or if it gives none of that kind,
those of the file. -/
def effectiveNames (command file : NamePatterns) : NamePatterns where
  includes := if command.includes = [] then file.includes else command.includes
  excludes := if command.excludes = [] then file.excludes else command.excludes

theorem effective_eq (command file : List String) :
    effective command file = if command = [] then file else command := by
  cases command <;> rfl

/-- The first pattern that cannot be compiled, the included ones before the excluded ones. -/
def uncompiled? (names : NamePatterns) : Option String :=
  (names.includes ++ names.excludes).find? fun p => (compile p).isNone

/-- Whether a pattern can be compiled and matches a name. -/
def finds (name pattern : String) : Bool := (compile pattern).any fun m => m name

/-- Whether patterns select a name: no excluded one matches it, and an included one does if there
are any. -/
def selects (names : NamePatterns) (name : String) : Bool :=
  !names.excludes.any (finds compile name) &&
    (names.includes.isEmpty || names.includes.any (finds compile name))

variable {compile}

/-- Compiling stops at the first pattern that cannot be compiled. -/
theorem compileAll_of_uncompiled {ps : List String} {p : String}
    (hp : ps.find? (fun p => (compile p).isNone) = some p) :
    compileAll compile ps = .error (.invalidPattern p) := by
  induction ps with
  | nil => cases hp
  | cons q rest ih =>
      rw [compileAll]
      cases hq : compile q with
      | none =>
          rw [List.find?_cons_of_pos (by rw [hq]; rfl)] at hp
          cases hp
          rfl
      | some m =>
          rw [List.find?_cons_of_neg (by rw [hq]; exact Bool.false_ne_true)] at hp
          rw [ih hp]

/-- Where every pattern can be compiled, each has its matcher, in order. -/
theorem exists_compileAll {ps : List String}
    (hps : ps.find? (fun p => (compile p).isNone) = none) :
    ∃ ms, compileAll compile ps = .ok ms ∧ List.Forall₂ (fun p m => compile p = some m) ps ms := by
  induction ps with
  | nil => exact ⟨[], rfl, .nil⟩
  | cons q rest ih =>
      rw [List.find?_eq_none, List.forall_mem_cons] at hps
      obtain ⟨hq, hrest⟩ := hps
      obtain ⟨m, hm⟩ := Option.ne_none_iff_exists'.mp (mt Option.isNone_iff_eq_none.mpr hq)
      obtain ⟨ms, hms, hall⟩ := ih (List.find?_eq_none.mpr hrest)
      refine ⟨m :: ms, ?_, .cons hm hall⟩
      rw [compileAll]
      simp only [hm, hms]

/-- Matchers match a name exactly where their patterns do. -/
theorem any_of_compiled {ps : List String} {ms : List NameMatcher}
    (hms : List.Forall₂ (fun p m => compile p = some m) ps ms) (name : String) :
    ms.any (fun m => m name) = ps.any (finds compile name) := by
  induction hms with
  | nil => rfl
  | cons hm _ ih =>
      rw [List.any_cons, List.any_cons, ih, finds, hm, Option.any_some]

theorem isEmpty_of_compiled {ps : List String} {ms : List NameMatcher}
    (hms : List.Forall₂ (fun p m => compile p = some m) ps ms) : ms.isEmpty = ps.isEmpty := by
  cases hms <;> rfl

/-! ## The order of the checks -/

/-- The patterns that hold for a command line and a file. -/
def namesOf (cl : CommandLine) (file : Option FileSettings) : NamePatterns :=
  effectiveNames cl.command.request.names (file.getD {}).names

/-- The milliseconds of a wait that hold for a command line and a file. -/
def sliceOf (cl : CommandLine) (file : Option FileSettings) : UInt64 :=
  effectiveSlice cl.command.request.timing (file.getD {}).timing

section Checks

variable {cl : CommandLine} {file : Option FileSettings}

theorem resolve_eq : resolve compile cl file = (do
    let includes ← compileAll compile (namesOf cl file).includes
    let excludes ← compileAll compile (namesOf cl file).excludes
    if sliceOf cl file = 0 then .error (.zeroDuration "slice_ms")
    else .ok (merged cl (file.getD {}) includes excludes)) := by
  rw [namesOf, sliceOf, effectiveNames, ← effective_eq, ← effective_eq, cl.request_eq]
  rfl

/-- Nothing is checked before the patterns. -/
theorem resolve_of_uncompiled {p : String} (hp : uncompiled? compile (namesOf cl file) = some p) :
    resolve compile cl file = .error (.invalidPattern p) := by
  rw [uncompiled?, List.find?_append, Option.or_eq_some_iff] at hp
  -- It is one of the included patterns, or these can be compiled and it is one of the excluded.
  obtain hincludes | ⟨hincludes, hexcludes⟩ := hp
  · rw [resolve_eq, compileAll_of_uncompiled hincludes]
    rfl
  · obtain ⟨includes, hcompiled, -⟩ := exists_compileAll hincludes
    rw [resolve_eq, hcompiled, compileAll_of_uncompiled hexcludes]
    rfl

/-- With patterns that can be compiled, the time of a wait decides. -/
theorem resolve_of_compiled (hn : uncompiled? compile (namesOf cl file) = none) :
    ∃ includes excludes,
      List.Forall₂ (fun p m => compile p = some m) (namesOf cl file).includes includes ∧
      List.Forall₂ (fun p m => compile p = some m) (namesOf cl file).excludes excludes ∧
      resolve compile cl file =
        if sliceOf cl file = 0 then .error (.zeroDuration "slice_ms")
        else .ok (merged cl (file.getD {}) includes excludes) := by
  rw [uncompiled?, List.find?_append, Option.or_eq_none_iff] at hn
  obtain ⟨includes, hincludes, hcompiled⟩ := exists_compileAll hn.1
  obtain ⟨excludes, hexcludes, hcompiled'⟩ := exists_compileAll hn.2
  refine ⟨includes, excludes, hcompiled, hcompiled', ?_⟩
  rw [resolve_eq, hincludes, hexcludes]
  rfl

theorem resolve_of_zero (hn : uncompiled? compile (namesOf cl file) = none)
    (hslice : sliceOf cl file = 0) :
    resolve compile cl file = .error (.zeroDuration "slice_ms") := by
  obtain ⟨includes, excludes, -, -, hresolve⟩ := resolve_of_compiled hn
  rw [hresolve, if_pos hslice]

end Checks

/-! ## What a valid configuration says -/

/-- The configuration is what a command and the settings of a file come to: each flag is set in
either, the interface is the command's, times are those that hold, and records and names are
selected by the flags and by the patterns that hold. -/
structure Prevails (compile : String → Option NameMatcher) (q : Request) (s : FileSettings)
    (c : Config) : Prop where
  ipv6 : c.flags.ipv6 = (q.flags.ipv6 || s.flags.ipv6)
  loopback : c.flags.loopback = (q.flags.loopback || s.flags.loopback)
  down : c.flags.down = (q.flags.down || s.flags.down)
  json : c.json = (q.json || s.json)
  interface : c.interface = q.interface
  slice : c.slice.totalNanos = (effectiveSlice q.timing s.timing).toNat * 1000000
  slice_pos : 0 < c.slice.totalNanos
  backoff : c.backoff.totalNanos = (effectiveBackoff q.timing s.timing).toNat * 1000000
  acceptsName : ∀ name,
    c.filter.acceptsName name = selects compile (effectiveNames q.names s.names) name
  accepts : ∀ r, c.filter.accepts r =
    (c.flags.accepts r && selects compile (effectiveNames q.names s.names) r.interface)

/-- The matchers of patterns accept the names that the patterns select. -/
theorem acceptsName_of_compiled {names : NamePatterns} {includes excludes : List NameMatcher}
    (hincludes : List.Forall₂ (fun p m => compile p = some m) names.includes includes)
    (hexcludes : List.Forall₂ (fun p m => compile p = some m) names.excludes excludes)
    (base : Option InclusionFlags) (name : String) :
    FilterChain.acceptsName ⟨base, includes, excludes⟩ name = selects compile names name := by
  rw [FilterChain.acceptsName, selects]
  simp only
  rw [any_of_compiled hincludes, any_of_compiled hexcludes, isEmpty_of_compiled hincludes]
  cases names.excludes.any (finds compile name) <;> rfl

/-- What passes the checks is a configuration. -/
theorem exists_resolve {cl : CommandLine} {file : Option FileSettings}
    (hn : uncompiled? compile (namesOf cl file) = none) (hslice : sliceOf cl file ≠ 0) :
    ∃ c, resolve compile cl file = .ok c ∧
      Prevails compile cl.command.request (file.getD {}) c ∧ c.verbose = cl.verbose := by
  obtain ⟨includes, excludes, hincludes, hexcludes, hresolve⟩ := resolve_of_compiled hn
  rw [if_neg hslice] at hresolve
  rw [namesOf] at hincludes hexcludes
  rw [sliceOf] at hslice
  refine ⟨_, hresolve, ?_, rfl⟩
  rw [cl.request_eq] at hincludes hexcludes hslice ⊢
  have hpos : 0 < (effectiveSlice cl.timing (file.getD {}).timing).toNat :=
    Nat.pos_of_ne_zero fun h => hslice (UInt64.toNat_inj.mp h)
  have hnames : ∀ name,
      (merged cl (file.getD {}) includes excludes).filter.acceptsName name =
        selects compile (effectiveNames cl.names (file.getD {}).names) name :=
    acceptsName_of_compiled hincludes hexcludes _
  exact
    { ipv6 := rfl
      loopback := rfl
      down := rfl
      json := rfl
      interface := rfl
      slice := Duration.totalNanos_ofMillis _
      slice_pos := by
        rw [merged, Duration.totalNanos_ofMillis]
        omega
      backoff := Duration.totalNanos_ofMillis _
      acceptsName := hnames
      accepts := fun r => by
        rw [FilterChain.accepts, hnames]
        rfl }

/-! ## What is overridden -/

/-- Two files agree wherever the command is silent: they may differ in patterns of a kind that the
command gives, in times that it gives, and in flags that it sets. -/
structure AgreeWhereSilent (q : Request) (s s' : FileSettings) : Prop where
  includes : q.names.includes = [] → s'.names.includes = s.names.includes
  excludes : q.names.excludes = [] → s'.names.excludes = s.names.excludes
  slice : q.timing.slice = none → s'.timing.slice = s.timing.slice
  backoff : q.timing.backoff = none → s'.timing.backoff = s.timing.backoff
  ipv6 : q.flags.ipv6 = false → s'.flags.ipv6 = s.flags.ipv6
  loopback : q.flags.loopback = false → s'.flags.loopback = s.flags.loopback
  down : q.flags.down = false → s'.flags.down = s.flags.down
  json : q.json = false → s'.json = s.json

theorem effectiveNames_congr {command file file' : NamePatterns}
    (hincludes : command.includes = [] → file'.includes = file.includes)
    (hexcludes : command.excludes = [] → file'.excludes = file.excludes) :
    effectiveNames command file' = effectiveNames command file := by
  rw [effectiveNames, effectiveNames, ite_congr rfl hincludes fun _ => rfl,
    ite_congr rfl hexcludes fun _ => rfl]

theorem orElse_congr {α : Type} {command file file' : Option α}
    (h : command = none → file' = file) : (command <|> file') = (command <|> file) := by
  cases command with
  | none => exact h rfl
  | some x => rfl

theorem or_congr_of_silent {command file file' : Bool} (h : command = false → file' = file) :
    (command || file') = (command || file) := by
  cases command with
  | false => exact h rfl
  | true => rfl

/-- What the command overrides has no part in the configuration, nor in whether it is valid. -/
theorem resolve_congr {cl : CommandLine} {file file' : Option FileSettings}
    (h : AgreeWhereSilent cl.command.request (file.getD {}) (file'.getD {})) :
    resolve compile cl file' = resolve compile cl file := by
  have hnames : namesOf cl file' = namesOf cl file := effectiveNames_congr h.includes h.excludes
  have hslice : sliceOf cl file' = sliceOf cl file := by
    rw [sliceOf, sliceOf, effectiveSlice, effectiveSlice, orElse_congr h.slice]
  -- What is left of the settings is looked at only where they are merged.
  have hmerged : merged cl (file'.getD {}) = merged cl (file.getD {}) := by
    rw [sliceOf, sliceOf] at hslice
    rw [cl.request_eq] at h hslice
    have hbackoff : effectiveBackoff cl.timing (file'.getD {}).timing =
        effectiveBackoff cl.timing (file.getD {}).timing := by
      rw [effectiveBackoff, effectiveBackoff, orElse_congr h.backoff]
    have hflags : eitherFlags cl.flags (file'.getD {}).flags =
        eitherFlags cl.flags (file.getD {}).flags := by
      rw [eitherFlags, eitherFlags, or_congr_of_silent h.ipv6, or_congr_of_silent h.loopback,
        or_congr_of_silent h.down]
    funext includes excludes
    rw [merged, merged, hflags, hslice, hbackoff, or_congr_of_silent h.json]
  rw [resolve_eq, resolve_eq, hnames, hslice, hmerged]

/-! ## Precedence -/

/-- **Precedence.** The first of the patterns that hold which cannot be compiled is the error; if
all can, a wait of zero milliseconds is, and no other. Otherwise there is a configuration, and it is
what the command, the file and the defaults come to. A file that differs only in what the command
overrides makes no difference, whatever it says there. -/
theorem precedence (compile : String → Option NameMatcher) (cl : CommandLine)
    (file : Option FileSettings) :
    (∀ p, uncompiled? compile (namesOf cl file) = some p →
      resolve compile cl file = .error (.invalidPattern p)) ∧
    (uncompiled? compile (namesOf cl file) = none →
      (resolve compile cl file = .error (.zeroDuration "slice_ms") ↔ sliceOf cl file = 0) ∧
      (sliceOf cl file ≠ 0 → ∃ c, resolve compile cl file = .ok c ∧
        Prevails compile cl.command.request (file.getD {}) c ∧ c.verbose = cl.verbose)) ∧
    ∀ file', AgreeWhereSilent cl.command.request (file.getD {}) (file'.getD {}) →
      resolve compile cl file' = resolve compile cl file := by
  refine ⟨fun p hp => resolve_of_uncompiled hp, fun hn => ?_, fun file' h => resolve_congr h⟩
  refine ⟨⟨fun herror => ?_, resolve_of_zero hn⟩, exists_resolve hn⟩
  by_contra hslice
  obtain ⟨c, hc, -⟩ := exists_resolve hn hslice
  rw [herror] at hc
  cases hc

/-- Patterns that match nothing but themselves, where a parenthesis is no pattern. -/
def literally (pattern : String) : Option NameMatcher :=
  if pattern = "(" then none else some fun name => name == pattern

/-- The settings of a file with a pattern that is none and with a wait of zero. -/
def faultySettings : FileSettings where
  names := { includes := ["("], excludes := ["lo"] }
  timing := { slice := some 0 }
  json := true

/-- The command line of a watch with the given patterns and a wait of five milliseconds. -/
def watchOf (includes : List String) : CommandLine :=
  ⟨.watch { timing := { slice := some 5 }, names := { includes } }, none, false⟩

/-- Patterns and a wait of the command hide the faults of the file, which are then as if they were
not there. Without patterns of the command the file's are compiled. -/
theorem precedence_of_faultySettings :
    (∃ c, resolve literally (watchOf ["eth0"]) (some faultySettings) = .ok c ∧
      c.filter.acceptsName "eth0" = true ∧ c.filter.acceptsName "lo" = false ∧
      c.slice.totalNanos = 5000000 ∧ c.json = true) ∧
    resolve literally (watchOf ["eth0"])
        (some { faultySettings with names := { excludes := ["lo"] }, timing := {} }) =
      resolve literally (watchOf ["eth0"]) (some faultySettings) ∧
    resolve literally (watchOf []) (some faultySettings) = .error (.invalidPattern "(") := by
  obtain ⟨-, hcompiled, hoverridden⟩ :=
    precedence literally (watchOf ["eth0"]) (some faultySettings)
  obtain ⟨-, hvalid⟩ := hcompiled (by decide)
  obtain ⟨c, hc, hprevails, -⟩ := hvalid (by decide)
  refine ⟨⟨c, hc, ?_, ?_, ?_, ?_⟩, ?_, ?_⟩
  · rw [hprevails.acceptsName]
    decide
  · rw [hprevails.acceptsName]
    decide
  · rw [hprevails.slice]
    decide
  · rw [hprevails.json]
    decide
  · refine hoverridden _ ⟨?_, ?_, ?_, ?_, ?_, ?_, ?_, ?_⟩ <;> decide
  · exact (precedence literally (watchOf []) (some faultySettings)).1 "(" (by decide)

end Config

end AddressWatch
