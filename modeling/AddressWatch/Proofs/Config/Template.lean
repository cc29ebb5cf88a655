/-
  AddressWatch.Proofs.Config.Template

  The configuration file to begin with changes nothing. Its text is one of plain lines, so what it
  says can be evaluated line by line (`parse_template`), and that is what holds without a file
  (`IsNeutral`). Merging such settings comes to the same as merging none (`resolve_of_neutral`).
-/

import Mathlib.Data.List.Basic
import AddressWatch.Proofs.Config.Loading
import AddressWatch.Proofs.Files
import AddressWatch.Proofs.Toml.Lines

namespace AddressWatch

/-- The same command line with another configuration file, or with none. -/
def CommandLine.withConfig (cl : CommandLine) (config : Option String) : CommandLine :=
  { cl with config }

/-! ## Sections

Sorting goes by halves and does not reduce, so the order of few entries is stated by comparisons. -/

namespace Toml.Section

variable {α : Type} {first second third : List Char × Toml}

/-- Reading goes on behind an entry that has a field and fits it. -/
theorem readEntries_cons {s : Section α} {field : Field α} {entry : List Char × Toml}
    {rest : Entries} {a a' : α}
    (hfield : s.fields.find? (·.name == String.ofList entry.1) = some field)
    (hread : field.read entry.2 a = .ok a') :
    s.readEntries (entry :: rest) a = s.readEntries rest a' := by
  obtain ⟨key, value⟩ := entry
  rw [readEntries, hfield]
  simp only [hread]

theorem inOrder_pair (hless : List.lex second.1 first.1 (fun c d => c.toNat < d.toNat) = true) :
    inOrder [first, second] = [second, first] := by
  simp [inOrder, List.mergeSort, List.MergeSort.Internal.splitInTwo, hless]

theorem inOrder_last
    (hsecond : List.lex second.1 first.1 (fun c d => c.toNat < d.toNat) = false)
    (hthird : List.lex third.1 first.1 (fun c d => c.toNat < d.toNat) = true) :
    inOrder [first, second, third] = [third, first, second] := by
  simp [inOrder, List.mergeSort, List.MergeSort.Internal.splitInTwo, hsecond, hthird]

end Toml.Section

namespace Config

/-! ## Settings that change nothing -/

/-- Settings that say of everything what holds without them. -/
structure IsNeutral (s : FileSettings) : Prop where
  flags : s.flags = {}
  names : s.names = {}
  slice : s.timing.slice.getD defaultSlice = defaultSlice
  backoff : s.timing.backoff.getD defaultBackoff = defaultBackoff
  json : s.json = false

section Neutral

variable {s : FileSettings} (hs : IsNeutral s)
include hs

theorem effectiveSlice_of_neutral (t : Timing) :
    effectiveSlice t s.timing = effectiveSlice t {} := by
  rw [effectiveSlice, effectiveSlice]
  cases t.slice with
  | some ms => rfl
  | none => exact hs.slice

theorem effectiveBackoff_of_neutral (t : Timing) :
    effectiveBackoff t s.timing = effectiveBackoff t {} := by
  rw [effectiveBackoff, effectiveBackoff]
  cases t.backoff with
  | some ms => rfl
  | none => exact hs.backoff

/-- Patterns and times are those that hold without settings. -/
theorem checked_of_neutral (cl : CommandLine) :
    namesOf cl (some s) = namesOf cl none ∧ sliceOf cl (some s) = sliceOf cl none := by
  refine ⟨?_, effectiveSlice_of_neutral hs _⟩
  rw [namesOf, namesOf, Option.getD_some, hs.names]
  rfl

theorem merged_of_neutral (cl : CommandLine) (includes excludes : List NameMatcher) :
    merged cl s includes excludes = merged cl {} includes excludes := by
  rw [merged, merged, hs.flags, hs.json, effectiveSlice_of_neutral hs,
    effectiveBackoff_of_neutral hs]

/-- Neutral settings come to the same as none, whatever the command line asks for. -/
theorem resolve_of_neutral (compile : String → Option NameMatcher) (cl : CommandLine) :
    resolve compile cl (some s) = resolve compile cl none := by
  obtain ⟨hnames, hslice⟩ := checked_of_neutral hs cl
  rw [resolve_eq, resolve_eq, hnames, hslice, Option.getD_some, Option.getD_none]
  simp only [merged_of_neutral hs]

end Neutral

/-! ## What the file says -/

open Toml in
/-- What the lines of the file say. -/
def templateStatements : List Statement :=
  let assigned (key : String) (value : Toml) : Statement := .assignment [key.toList] value
  [ .header ["enumerate".toList], assigned "include_ipv6" (.boolean false),
    assigned "include_loopback" (.boolean false), assigned "include_down" (.boolean false),
    .header ["filter".toList], .header ["monitor".toList], assigned "slice_ms" (.integer 1000),
    assigned "interrupt_backoff_ms" (.integer 500), .header ["output".toList],
    assigned "json" (.boolean false) ]

/-- The tables that the statements make. -/
def templateEntries : Toml.Entries :=
  [ ("enumerate".toList, .table .opened
      [("include_ipv6".toList, .boolean false), ("include_loopback".toList, .boolean false),
        ("include_down".toList, .boolean false)]),
    ("filter".toList, .table .opened []),
    ("monitor".toList, .table .opened
      [("slice_ms".toList, .integer 1000), ("interrupt_backoff_ms".toList, .integer 500)]),
    ("output".toList, .table .opened [("json".toList, .boolean false)]) ]

/-- The settings that the file gives: both times, and nothing else. -/
def templateSettings : FileSettings where
  timing := { slice := some 1000, backoff := some 500 }

theorem linesSaid?_template :
    Toml.linesSaid? (FileSettings.templateLines.map String.toList) = some templateStatements := by
  rfl

theorem toList_template :
    FileSettings.template.toList = Toml.joined (FileSettings.templateLines.map String.toList) := by
  rw [FileSettings.template, String.toList_join, Toml.joined, List.flatMap_map, List.flatMap_map]
  exact List.flatMap_congr fun line _ => String.toList_append

theorem ofStatements?_template : Toml.ofStatements? templateStatements = some templateEntries := by
  rfl

theorem read_template :
    FileSettings.sections.read (.table .opened templateEntries) {} = .ok templateSettings := by
  -- The sections stand in the order of their names, but the fields within them do not.
  have hsections : Toml.Section.inOrder templateEntries = templateEntries :=
    List.mergeSort_of_pairwise (by decide)
  have henumerate : FileSettings.enumerateSection.read (.table .opened
      [("include_ipv6".toList, .boolean false), ("include_loopback".toList, .boolean false),
        ("include_down".toList, .boolean false)]) {} = .ok {} := by
    rw [Toml.Section.read, Toml.Section.inOrder_last (by decide) (by decide)]
    rfl
  have hfilter : FileSettings.filterSection.read (.table .opened []) {} = .ok {} := by
    rw [Toml.Section.read, Toml.Section.inOrder, List.mergeSort_nil]
    rfl
  have hmonitor : FileSettings.monitorSection.read (.table .opened
      [("slice_ms".toList, .integer 1000), ("interrupt_backoff_ms".toList, .integer 500)]) {} =
        .ok templateSettings.timing := by
    rw [Toml.Section.read, Toml.Section.inOrder_pair (by decide)]
    rfl
  have houtput : FileSettings.outputSection.read (.table .opened
      [("json".toList, .boolean false)]) false = .ok false := by
    rw [Toml.Section.read, Toml.Section.inOrder, List.mergeSort_singleton]
    rfl
  rw [Toml.Section.read, hsections, templateEntries,
    Toml.Section.readEntries_cons rfl (congrArg (Except.map _) henumerate),
    Toml.Section.readEntries_cons rfl (congrArg (Except.map _) hfilter),
    Toml.Section.readEntries_cons rfl (congrArg (Except.map _) hmonitor),
    Toml.Section.readEntries_cons rfl (congrArg (Except.map _) houtput)]
  rfl

/-- The file can be read, and its settings are those two times. -/
theorem parse_template : FileSettings.parse FileSettings.template.toList = .ok templateSettings := by
  rw [FileSettings.parse, toList_template, Toml.parse?_of_said linesSaid?_template,
    ofStatements?_template]
  simp only [read_template]

/-- The file says of both times what holds without it. -/
theorem isNeutral_templateSettings : IsNeutral templateSettings where
  flags := rfl
  names := rfl
  slice := by decide
  backoff := by decide
  json := rfl

/-! ## What the file changes -/

/-- The settings of a file that was written to begin with are found where it was written. -/
theorem readSettings_of_writeTemplate {files files' : Files} {output : String}
    (hwrite : writeTemplate files output = .ok files') :
    readSettings files'.readText output = .ok templateSettings := by
  rw [writeTemplate] at hwrite
  split at hwrite
  · next hfile =>
      cases hwrite
      have hread := readSettings_of_parsed (Files.readText_of_write hfile) parse_template
      rwa [String.ofList_toList] at hread
  · cases hwrite

/-- **The file to begin with is neutral.** Its text gives settings, and merging them with any
command line comes to what merging none comes to: the same error, or the same configuration. So
wherever the file was written, a command line that names that place loads what it loads without a
configuration file. -/
theorem template_neutral (compile : String → Option NameMatcher) (cl : CommandLine) :
    (∃ settings, FileSettings.parse FileSettings.template.toList = .ok settings ∧
      resolve compile cl (some settings) = resolve compile cl none) ∧
    ∀ (files files' : Files) (output path : String) (home : Option String) (read : ReadText),
      writeTemplate files output = .ok files' →
      path? (cl.withConfig (some path)) home = .ok (some output) →
      load compile (cl.withConfig (some path)) home files'.readText =
        load compile (cl.withConfig none) home read := by
  refine ⟨⟨templateSettings, parse_template, ?_⟩, ?_⟩
  · exact resolve_of_neutral isNeutral_templateSettings compile cl
  · intro files files' output path home read hwrite hpath
    have hsettings := readSettings_of_writeTemplate hwrite
    have hunnamed : load compile (cl.withConfig none) home read = resolve compile cl none :=
      load_of_unnamed rfl
    rw [hunnamed, load, hpath]
    show (readSettings files'.readText output >>= fun settings => _) = _
    rw [hsettings]
    exact resolve_of_neutral isNeutral_templateSettings compile _

/-- In an empty directory the file can be written, and then it hides no fault of the command line
and switches nothing on. -/
theorem template_neutral_of_watch :
    ∃ files', writeTemplate ⟨[]⟩ "netut.toml" = .ok files' ∧
      load literally ((watchOf ["("]).withConfig (some "netut.toml")) none files'.readText =
        .error (.invalidPattern "(") ∧
      ∃ c, load literally ((watchOf ["eth0"]).withConfig (some "netut.toml")) none
          files'.readText = .ok c ∧
        c.slice.totalNanos = 5000000 ∧ c.backoff.totalNanos = 500000000 ∧ c.json = false := by
  have hwrite : ∀ bytes, (⟨[]⟩ : Files).write "netut.toml".toList bytes =
      .ok (Files.put ⟨[]⟩ ["netut.toml".toList] bytes) := fun _ => rfl
  obtain ⟨files', hfile⟩ : ∃ files', writeTemplate ⟨[]⟩ "netut.toml" = .ok files' := by
    rw [writeTemplate, hwrite]
    exact ⟨_, rfl⟩
  obtain ⟨-, hfaulty⟩ := template_neutral literally (watchOf ["("])
  obtain ⟨-, hvalid⟩ := template_neutral literally (watchOf ["eth0"])
  refine ⟨files', hfile, ?_, ?_⟩
  · rw [hfaulty ⟨[]⟩ files' "netut.toml" "netut.toml" none files'.readText hfile rfl]
    rfl
  · rw [hvalid ⟨[]⟩ files' "netut.toml" "netut.toml" none files'.readText hfile rfl]
    exact ⟨_, rfl, by decide, by decide, rfl⟩

end Config

end AddressWatch
