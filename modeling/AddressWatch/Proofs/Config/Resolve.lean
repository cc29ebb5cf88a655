/-
  AddressWatch.Proofs.Config.Resolve

  What the configuration that holds depends on. The form of the output is settled by itself: whether
  the command line asks for JSON changes neither whether the configuration is valid nor anything
  else of it (`load_watching`).
-/

import AddressWatch.Config

namespace AddressWatch

/-- The command line that asks for a watch with the given options. -/
def CommandLine.watching (cl : CommandLine) (o : WatchOptions) : CommandLine :=
  { cl with command := .watch o }

theorem CommandLine.watching_self {cl : CommandLine} {o : WatchOptions}
    (hc : cl.command = .watch o) : cl.watching o = cl := by
  rw [watching, ← hc]

namespace Config

/-- The milliseconds of a wait that hold, from those of the command line and the file. -/
def effectiveSlice (commandLine file : Timing) : UInt64 :=
  (commandLine.slice <|> file.slice).getD defaultSlice

/-- The milliseconds of a pause that hold, from those of the command line and the file. -/
def effectiveBackoff (commandLine file : Timing) : UInt64 :=
  (commandLine.backoff <|> file.backoff).getD defaultBackoff

/-- The configuration that the parts of a command line and the settings of a file make. -/
def merged (cl : CommandLine) (settings : FileSettings) (includes excludes : List NameMatcher) :
    Config where
  flags := eitherFlags cl.flags settings.flags
  filter := { base := some (eitherFlags cl.flags settings.flags), includes, excludes }
  interface := cl.interface?
  slice := .ofMillis (effectiveSlice cl.timing settings.timing)
  backoff := .ofMillis (effectiveBackoff cl.timing settings.timing)
  json := cl.json || settings.json
  verbose := cl.verbose

variable {compile : String → Option NameMatcher}

/-- There is a configuration exactly if all patterns can be compiled and the wait is not zero. -/
theorem resolve_eq_ok_iff {cl : CommandLine} {file : Option FileSettings} {c : Config} :
    resolve compile cl file = .ok c ↔ ∃ includes excludes,
      compileAll compile (effective cl.names.includes (file.getD {}).names.includes) =
        .ok includes ∧
      compileAll compile (effective cl.names.excludes (file.getD {}).names.excludes) =
        .ok excludes ∧
      effectiveSlice cl.timing (file.getD {}).timing ≠ 0 ∧
      merged cl (file.getD {}) includes excludes = c := by
  rw [resolve]
  cases compileAll compile (effective cl.names.includes (file.getD {}).names.includes) with
  | error e =>
      refine iff_of_false nofun ?_
      rintro ⟨_, _, ⟨⟩, -⟩
  | ok includes =>
      cases compileAll compile (effective cl.names.excludes (file.getD {}).names.excludes) with
      | error e =>
          refine iff_of_false nofun ?_
          rintro ⟨_, _, -, ⟨⟩, -⟩
      | ok excludes =>
          show (if effectiveSlice cl.timing (file.getD {}).timing = 0 then _
            else Except.ok (merged cl (file.getD {}) includes excludes)) = _ ↔ _
          by_cases hslice : effectiveSlice cl.timing (file.getD {}).timing = 0
          · rw [if_pos hslice]
            refine iff_of_false nofun ?_
            rintro ⟨_, _, -, -, hne, -⟩
            exact hne hslice
          · rw [if_neg hslice]
            constructor
            · intro hc
              exact ⟨includes, excludes, rfl, rfl, hslice, Except.ok.inj hc⟩
            · rintro ⟨_, _, ⟨⟩, ⟨⟩, -, rfl⟩
              rfl

/-- The configuration with another form of the output. -/
def withJson (c : Config) (json : Bool) : Config := { c with json }

section Watching

variable {cl : CommandLine} {o : WatchOptions} {c : Config}

/-- Whether JSON is asked for is no part of what makes a configuration valid. -/
theorem resolve_watching {file : Option FileSettings}
    (hr : resolve compile (cl.watching o) file = .ok c) (json : Bool) :
    resolve compile (cl.watching { o with json }) file =
      .ok (c.withJson (json || (file.getD {}).json)) := by
  rw [resolve_eq_ok_iff] at hr ⊢
  obtain ⟨includes, excludes, hincludes, hexcludes, hslice, rfl⟩ := hr
  exact ⟨includes, excludes, hincludes, hexcludes, hslice, rfl⟩

/-- Of a file, no more than whether it asks for JSON has a say in what form a watch prints. -/
theorem load_watching {home : Option String} {read : ReadText}
    (hl : load compile (cl.watching o) home read = .ok c) :
    ∃ fromFile, ∀ json, load compile (cl.watching { o with json }) home read =
      .ok (c.withJson (json || fromFile)) := by
  have hpath : ∀ json, path? (cl.watching { o with json }) home = path? (cl.watching o) home :=
    fun _ => rfl
  rw [load] at hl
  cases hp : path? (cl.watching o) home with
  | error e =>
      rw [hp] at hl
      cases hl
  | ok path =>
      rw [hp] at hl
      cases path with
      | none =>
          refine ⟨({} : FileSettings).json, fun json => ?_⟩
          rw [load, hpath, hp]
          exact resolve_watching hl json
      | some path =>
          cases hs : readSettings read path with
          | error e =>
              simp only [bind, Except.bind, hs] at hl
              cases hl
          | ok settings =>
              refine ⟨settings.json, fun json => ?_⟩
              simp only [bind, Except.bind, hs] at hl
              rw [load, hpath, hp]
              simp only [bind, Except.bind, hs]
              exact resolve_watching hl json

end Watching

end Config

end AddressWatch
