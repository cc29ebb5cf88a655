/-
  AddressWatch.Proofs.Config.Loading

  Where the configuration of a command line comes from, and why there may be none. The settings are
  those of the configuration file if the command line names one (`HasSettings`); there is no
  configuration exactly if one of five things is wrong, and the error says which (`Fault`,
  `load_eq_error_iff`).
-/

import AddressWatch.Proofs.Config.Precedence

namespace AddressWatch

/-- A `~` in front is the only thing for which a home directory is needed. -/
theorem Path.expandTilde?_eq_none_iff {home : Option (List Char)} {p : List Char} :
    expandTilde? home p = none ↔ (pieces p).head? = some ['~'] ∧ home = none := by
  rw [expandTilde?]
  split
  · next rest hp => simp [hp]
  · next hp =>
      refine iff_of_false (Option.some_ne_none _) fun ⟨hhead, _⟩ => ?_
      obtain ⟨rest, hrest⟩ := List.head?_eq_some_iff.mp hhead
      exact hp rest hrest

namespace Config

section

variable (cl : CommandLine) (home : Option String) (read : ReadText)

/-- The settings of the configuration file, if the command line names one. -/
inductive HasSettings : Option FileSettings → Prop where
  | unnamed (hconfig : cl.config = none) : HasSettings none
  | named {path : String} {expanded text : List Char} {settings : FileSettings}
      (hconfig : cl.config = some path)
      (hpath : Path.expandTilde? (home.map String.toList) path.toList = some expanded)
      (htext : read expanded = .ok text) (hparse : FileSettings.parse text = .ok settings) :
      HasSettings (some settings)

/-- What is wrong where there is no configuration. -/
inductive Fault (compile : String → Option NameMatcher) : ConfigError → Prop where
  /-- The path begins with `~`, and the home directory is unknown. -/
  | homeless {path : String} (hconfig : cl.config = some path)
      (htilde : (Path.pieces path.toList).head? = some ['~']) (hhome : home = none) :
      Fault compile (.noHome path)
  | unreadable {path : String} {expanded : List Char} {cause : SystemError}
      (hconfig : cl.config = some path)
      (hpath : Path.expandTilde? (home.map String.toList) path.toList = some expanded)
      (htext : read expanded = .error cause) :
      Fault compile (.fileRead (String.ofList expanded) cause)
  | malformed {path : String} {expanded text : List Char} {cause : SettingsError}
      (hconfig : cl.config = some path)
      (hpath : Path.expandTilde? (home.map String.toList) path.toList = some expanded)
      (htext : read expanded = .ok text) (hparse : FileSettings.parse text = .error cause) :
      Fault compile (.settings cause)
  /-- A pattern that holds cannot be compiled. -/
  | uncompiled {file : Option FileSettings} {pattern : String}
      (hfile : HasSettings cl home read file)
      (hpattern : uncompiled? compile (namesOf cl file) = some pattern) :
      Fault compile (.invalidPattern pattern)
  /-- The wait that holds is zero. -/
  | zero {file : Option FileSettings} (hfile : HasSettings cl home read file)
      (hpatterns : uncompiled? compile (namesOf cl file) = none) (hslice : sliceOf cl file = 0) :
      Fault compile (.zeroDuration "slice_ms")

end

variable {compile : String → Option NameMatcher} {cl : CommandLine} {home : Option String}
  {read : ReadText}

/-- Without a configuration file there are no settings. -/
theorem HasSettings.eq_none {file : Option FileSettings} (hfile : HasSettings cl home read file)
    (hconfig : cl.config = none) : file = none := by
  cases hfile with
  | unnamed => rfl
  | named hnamed =>
      rw [hconfig] at hnamed
      cases hnamed

/-- A file says one thing. -/
theorem HasSettings.unique {file file' : Option FileSettings}
    (hfile : HasSettings cl home read file) (hfile' : HasSettings cl home read file') :
    file = file' := by
  cases hfile with
  | unnamed hconfig => exact (hfile'.eq_none hconfig).symm
  | named hconfig hpath htext hparse =>
      cases hfile' with
      | unnamed hunnamed =>
          rw [hconfig] at hunnamed
          cases hunnamed
      | named hconfig' hpath' htext' hparse' =>
          -- The path, its expansion, the text and the settings are the same one after the other.
          cases Option.some.inj (hconfig.symm.trans hconfig')
          cases Option.some.inj (hpath.symm.trans hpath')
          cases Except.ok.inj (htext.symm.trans htext')
          cases Except.ok.inj (hparse.symm.trans hparse')
          rfl

/-! ## From the file to the configuration -/

section Steps

variable {path : String} {expanded text : List Char}

theorem path?_of_unnamed (hconfig : cl.config = none) : path? cl home = .ok none := by
  rw [path?, hconfig]

theorem path?_of_expanded (hconfig : cl.config = some path)
    (hpath : Path.expandTilde? (home.map String.toList) path.toList = some expanded) :
    path? cl home = .ok (some (String.ofList expanded)) := by
  rw [path?, hconfig]
  simp only [hpath]

theorem path?_of_homeless (hconfig : cl.config = some path)
    (hpath : Path.expandTilde? (home.map String.toList) path.toList = none) :
    path? cl home = .error (.noHome path) := by
  rw [path?, hconfig]
  simp only [hpath]

theorem load_of_unnamed (hconfig : cl.config = none) :
    load compile cl home read = resolve compile cl none := by
  rw [load, path?_of_unnamed hconfig]
  rfl

theorem load_of_named (hconfig : cl.config = some path)
    (hpath : Path.expandTilde? (home.map String.toList) path.toList = some expanded) :
    load compile cl home read = (do
      let settings ← readSettings read (String.ofList expanded)
      resolve compile cl (some settings)) := by
  rw [load, path?_of_expanded hconfig hpath]
  rfl

theorem readSettings_of_unreadable {cause : SystemError} (htext : read expanded = .error cause) :
    readSettings read (String.ofList expanded) =
      .error (.fileRead (String.ofList expanded) cause) := by
  rw [readSettings, String.toList_ofList, htext]

theorem readSettings_of_malformed {cause : SettingsError} (htext : read expanded = .ok text)
    (hparse : FileSettings.parse text = .error cause) :
    readSettings read (String.ofList expanded) = .error (.settings cause) := by
  rw [readSettings, String.toList_ofList, htext]
  simp only [hparse]

theorem readSettings_of_parsed {settings : FileSettings} (htext : read expanded = .ok text)
    (hparse : FileSettings.parse text = .ok settings) :
    readSettings read (String.ofList expanded) = .ok settings := by
  rw [readSettings, String.toList_ofList, htext]
  simp only [hparse]

end Steps

/-- With settings, loading is merging. -/
theorem load_of_hasSettings {file : Option FileSettings} (hfile : HasSettings cl home read file) :
    load compile cl home read = resolve compile cl file := by
  cases hfile with
  | unnamed hconfig => exact load_of_unnamed hconfig
  | named hconfig hpath htext hparse =>
      rw [load_of_named hconfig hpath, readSettings_of_parsed htext hparse]
      rfl

/-- What is wrong is the error. -/
theorem load_of_fault {e : ConfigError} (he : Fault cl home read compile e) :
    load compile cl home read = .error e := by
  cases he with
  | @homeless path hconfig htilde hhome =>
      have hpath : Path.expandTilde? (home.map String.toList) path.toList = none :=
        Path.expandTilde?_eq_none_iff.mpr ⟨htilde, Option.map_eq_none_iff.mpr hhome⟩
      rw [load, path?_of_homeless hconfig hpath]
      rfl
  | unreadable hconfig hpath htext =>
      rw [load_of_named hconfig hpath, readSettings_of_unreadable htext]
      rfl
  | malformed hconfig hpath htext hparse =>
      rw [load_of_named hconfig hpath, readSettings_of_malformed htext hparse]
      rfl
  | uncompiled hfile hpattern =>
      exact (load_of_hasSettings hfile).trans (resolve_of_uncompiled hpattern)
  | zero hfile hpatterns hslice =>
      exact (load_of_hasSettings hfile).trans (resolve_of_zero hpatterns hslice)

/-- Either the file gives its settings, or it is at fault. -/
theorem hasSettings_or_fault (compile : String → Option NameMatcher) (cl : CommandLine)
    (home : Option String) (read : ReadText) :
    (∃ file, HasSettings cl home read file) ∨ ∃ e, Fault cl home read compile e := by
  cases hconfig : cl.config with
  | none => exact .inl ⟨none, .unnamed hconfig⟩
  | some path =>
      cases hpath : Path.expandTilde? (home.map String.toList) path.toList with
      | none =>
          obtain ⟨htilde, hhome⟩ := Path.expandTilde?_eq_none_iff.mp hpath
          exact .inr ⟨_, .homeless hconfig htilde (Option.map_eq_none_iff.mp hhome)⟩
      | some expanded =>
          cases htext : read expanded with
          | error cause => exact .inr ⟨_, .unreadable hconfig hpath htext⟩
          | ok text =>
              cases hparse : FileSettings.parse text with
              | error cause => exact .inr ⟨_, .malformed hconfig hpath htext hparse⟩
              | ok settings => exact .inl ⟨some settings, .named hconfig hpath htext hparse⟩

/-- Either something is wrong, or there is a configuration, and it is what the command, the settings
and the defaults come to. -/
theorem prevails_or_fault (compile : String → Option NameMatcher) (cl : CommandLine)
    (home : Option String) (read : ReadText) :
    (∃ c file, load compile cl home read = .ok c ∧ HasSettings cl home read file ∧
      Prevails compile cl.command.request (file.getD {}) c) ∨
      ∃ e, Fault cl home read compile e := by
  rcases hasSettings_or_fault compile cl home read with ⟨file, hfile⟩ | hfault
  · -- The checks in their order: first the patterns, then the wait.
    cases hpatterns : uncompiled? compile (namesOf cl file) with
    | some pattern => exact .inr ⟨_, .uncompiled hfile hpatterns⟩
    | none =>
        by_cases hslice : sliceOf cl file = 0
        · exact .inr ⟨_, .zero hfile hpatterns hslice⟩
        · obtain ⟨c, hc, hprevails, -⟩ := exists_resolve hpatterns hslice
          exact .inl ⟨c, file, (load_of_hasSettings hfile).trans hc, hfile, hprevails⟩
  · exact .inr hfault

/-- There is no configuration exactly if something is wrong, and the error says what. -/
theorem load_eq_error_iff {e : ConfigError} :
    load compile cl home read = .error e ↔ Fault cl home read compile e := by
  refine ⟨fun hload => ?_, load_of_fault⟩
  rcases prevails_or_fault compile cl home read with ⟨c, file, hok, -⟩ | ⟨e', he'⟩
  · rw [hload] at hok
    cases hok
  · have hload' := load_of_fault he'
    rw [hload] at hload'
    cases hload'
    exact he'

end Config

end AddressWatch
