/-
  AddressWatch.Proofs.Filter

  What a filter chain means that was built in steps. It holds what was added, and the flags that were
  given last (`foldl_apply`), so the order in which it was built and repetitions are of no account
  but for the flags (`build_decisions`). The configurations of a list and of a watch with the same
  patterns hold such chains, which differ in their flags alone.
-/

import Mathlib.Data.List.Basic
import Mathlib.Tactic.Tauto
import AddressWatch.Enumeration
import AddressWatch.Proofs.Config.Precedence

namespace AddressWatch

namespace FilterChain

/-! ## Building a chain -/

/-- A step in which a chain is built. -/
inductive Call where
  | withBase (flags : InclusionFlags)
  | including (m : NameMatcher)
  | excluding (m : NameMatcher)

/-- The chain after a step. -/
def Call.apply (chain : FilterChain) : Call → FilterChain
  | .withBase flags => chain.withBase flags
  | .including m => chain.including m
  | .excluding m => chain.excluding m

/-- The chain that the steps build, from one without flags and matchers. -/
def build (calls : List Call) : FilterChain := calls.foldl Call.apply {}

/-- The flags that a step gives. -/
def Call.flags? : Call → Option InclusionFlags
  | .withBase flags => some flags
  | _ => none

theorem Call.ne_withBase {call : Call} (hcall : call.flags? = none) (flags : InclusionFlags) :
    call ≠ .withBase flags := by
  rintro rfl
  cases hcall

/-- The matcher that a step includes. -/
def Call.included? : Call → Option NameMatcher
  | .including m => some m
  | _ => none

/-- The matcher that a step excludes. -/
def Call.excluded? : Call → Option NameMatcher
  | .excluding m => some m
  | _ => none

/-- The flags that are given last. -/
def lastBase? (calls : List Call) : Option InclusionFlags := (calls.filterMap Call.flags?).getLast?

variable {calls calls' before after : List Call} {m : NameMatcher}

/-- Steps replace the flags of a chain by those that they give last, if they give any, and add their
matchers behind those of the chain. -/
theorem foldl_apply (calls : List Call) (chain : FilterChain) :
    calls.foldl Call.apply chain =
      { base := (lastBase? calls).or chain.base
        includes := chain.includes ++ calls.filterMap Call.included?
        excludes := chain.excludes ++ calls.filterMap Call.excluded? } := by
  -- The steps that are left start from the chain after the first one.
  induction calls generalizing chain with
  | nil => simp [lastBase?]
  | cons call calls ih =>
      rw [List.foldl_cons, ih]
      cases call with
      | withBase flags =>
          -- These flags hold unless a later step gives others.
          have hlast : (lastBase? calls).or (some flags) =
              lastBase? (.withBase flags :: calls) := by
            show (calls.filterMap Call.flags?).getLast?.or (some flags) =
              (flags :: calls.filterMap Call.flags?).getLast?
            rw [List.getLast?_cons]
            cases (calls.filterMap Call.flags?).getLast? <;> rfl
          show FilterChain.mk ((lastBase? calls).or (some flags)) _ _ = _
          rw [hlast]
          rfl
      | including i =>
          show FilterChain.mk _ ((chain.includes ++ [i]) ++ _) _ = _
          rw [List.append_assoc]
          rfl
      | excluding e =>
          show FilterChain.mk _ _ ((chain.excludes ++ [e]) ++ _) = _
          rw [List.append_assoc]
          rfl

theorem base_build (calls : List Call) : (build calls).base = lastBase? calls := by
  rw [build, foldl_apply, Option.or_none]

theorem includes_build (calls : List Call) :
    (build calls).includes = calls.filterMap Call.included? := by
  rw [build, foldl_apply]
  exact List.nil_append _

theorem excludes_build (calls : List Call) :
    (build calls).excludes = calls.filterMap Call.excluded? := by
  rw [build, foldl_apply]
  exact List.nil_append _

theorem mem_includes_build : m ∈ (build calls).includes ↔ .including m ∈ calls := by
  rw [includes_build, List.mem_filterMap]
  constructor
  · rintro ⟨call, hcall, hm⟩
    cases call <;> cases hm
    exact hcall
  · exact fun hcall => ⟨_, hcall, rfl⟩

theorem mem_excludes_build : m ∈ (build calls).excludes ↔ .excluding m ∈ calls := by
  rw [excludes_build, List.mem_filterMap]
  constructor
  · rintro ⟨call, hcall, hm⟩
    cases call <;> cases hm
    exact hcall
  · exact fun hcall => ⟨_, hcall, rfl⟩

/-! ## What it selects -/

/-- The steps select a name: no matcher that they exclude matches it, and one that they include
does, unless they include none. -/
structure Selects (calls : List Call) (name : String) : Prop where
  excluded : ∀ m, .excluding m ∈ calls → m name = false
  included : (∀ m, .including m ∉ calls) ∨ ∃ m, .including m ∈ calls ∧ m name = true

theorem acceptsName_iff (chain : FilterChain) (name : String) :
    chain.acceptsName name = true ↔ (∀ m ∈ chain.excludes, m name = false) ∧
      (chain.includes = [] ∨ ∃ m ∈ chain.includes, m name = true) := by
  rw [acceptsName]
  by_cases hexcluded : chain.excludes.any (fun m => m name) = true
  · rw [if_pos hexcluded]
    obtain ⟨m, hm, hname⟩ := List.any_eq_true.mp hexcluded
    refine iff_of_false Bool.false_ne_true fun h => ?_
    rw [h.1 m hm] at hname
    cases hname
  · rw [if_neg hexcluded, Bool.or_eq_true, List.isEmpty_iff, List.any_eq_true]
    refine (and_iff_right fun m hm => ?_).symm
    rw [Bool.eq_false_iff]
    exact fun hname => hexcluded (List.any_eq_true.mpr ⟨m, hm, hname⟩)

theorem acceptsName_build {name : String} :
    (build calls).acceptsName name = true ↔ Selects calls name := by
  have hnone : (build calls).includes = [] ↔ ∀ m, .including m ∉ calls := by
    simp only [List.eq_nil_iff_forall_not_mem, mem_includes_build]
  rw [acceptsName_iff, hnone]
  simp only [mem_includes_build, mem_excludes_build]
  exact ⟨fun ⟨hexcluded, hincluded⟩ => ⟨hexcluded, hincluded⟩, fun h => ⟨h.excluded, h.included⟩⟩

theorem accepts_iff (chain : FilterChain) (r : AddressRecord) :
    chain.accepts r = true ↔ chain.acceptsName r.interface = true ∧
      ∀ flags, chain.base = some flags → flags.accepts r = true := by
  rw [accepts, Bool.and_eq_true, and_comm, Option.all_eq_true]

theorem accepts_build {r : AddressRecord} :
    (build calls).accepts r = true ↔ Selects calls r.interface ∧
      ∀ flags, lastBase? calls = some flags → flags.accepts r = true := by
  rw [accepts_iff, acceptsName_build, base_build]

/-! ## Other steps -/

/-- The same matchers are included and excluded, in whatever order and however often. -/
def SameMatchers (calls calls' : List Call) : Prop :=
  ∀ call : Call, call.flags? = none → (call ∈ calls' ↔ call ∈ calls)

theorem SameMatchers.selects_iff (h : SameMatchers calls calls') {name : String} :
    Selects calls' name ↔ Selects calls name := by
  have hincluding : ∀ m, .including m ∈ calls' ↔ .including m ∈ calls := fun m => h _ rfl
  have hexcluding : ∀ m, .excluding m ∈ calls' ↔ .excluding m ∈ calls := fun m => h _ rfl
  constructor
  · rintro ⟨hexcluded, hincluded⟩
    simp only [hincluding, hexcluding] at hexcluded hincluded
    exact ⟨hexcluded, hincluded⟩
  · rintro ⟨hexcluded, hincluded⟩
    simp only [← hincluding, ← hexcluding] at hexcluded hincluded
    exact ⟨hexcluded, hincluded⟩

theorem SameMatchers.acceptsName_eq (h : SameMatchers calls calls') :
    (build calls').acceptsName = (build calls).acceptsName := by
  funext name
  rw [Bool.eq_iff_iff, acceptsName_build, acceptsName_build, h.selects_iff]

theorem SameMatchers.accepts_eq (h : SameMatchers calls calls')
    (hbase : lastBase? calls' = lastBase? calls) :
    (build calls').accepts = (build calls).accepts := by
  funext r
  rw [Bool.eq_iff_iff, accepts_build, accepts_build, h.selects_iff, hbase]

/-- A matcher among the steps leaves the flags as they are. -/
theorem lastBase?_insert {call : Call} (hcall : call.flags? = none) (before after : List Call) :
    lastBase? (before ++ call :: after) = lastBase? (before ++ after) := by
  rw [lastBase?, lastBase?, List.filterMap_append, List.filterMap_cons_none hcall,
    ← List.filterMap_append]

theorem mem_insert_iff {call other : Call} :
    call ∈ before ++ other :: after ↔ call = other ∨ call ∈ before ++ after :=
  List.perm_middle.mem_iff.trans List.mem_cons

/-- What is selected with one more excluded matcher is selected without it. -/
theorem Selects.of_excluding {name : String}
    (h : Selects (before ++ .excluding m :: after) name) : Selects (before ++ after) name where
  excluded e he := h.excluded e (mem_insert_iff.mpr (.inr he))
  included := by
    refine h.included.imp (fun hnone i hi => hnone i (mem_insert_iff.mpr (.inr hi))) ?_
    rintro ⟨i, hi, hname⟩
    obtain hi | hi := mem_insert_iff.mp hi
    · cases hi
    · exact ⟨i, hi, hname⟩

/-- What one of the included matchers selects is still selected with one more. -/
theorem Selects.including {name : String} (h : Selects (before ++ after) name)
    (hsome : ∃ i, .including i ∈ before ++ after) :
    Selects (before ++ .including m :: after) name where
  excluded e he := by
    obtain he | he := mem_insert_iff.mp he
    · cases he
    · exact h.excluded e he
  included := by
    -- With none before, each name was selected, and the new matcher would reject those that it
    -- does not match.
    obtain ⟨i, hi⟩ := hsome
    rcases h.included with hnone | ⟨j, hj, hname⟩
    · exact absurd hi (hnone i)
    · exact .inr ⟨j, mem_insert_iff.mpr (.inr hj), hname⟩

theorem accepts_of_excluding {r : AddressRecord}
    (h : (build (before ++ .excluding m :: after)).accepts r = true) :
    (build (before ++ after)).accepts r = true := by
  rw [accepts_build] at h ⊢
  rw [lastBase?_insert rfl] at h
  exact ⟨h.1.of_excluding, h.2⟩

theorem accepts_including {r : AddressRecord} (hsome : ∃ i, .including i ∈ before ++ after)
    (h : (build (before ++ after)).accepts r = true) :
    (build (before ++ .including m :: after)).accepts r = true := by
  rw [accepts_build] at h ⊢
  rw [lastBase?_insert rfl]
  exact ⟨h.1.including hsome, h.2⟩

end FilterChain

/-! ## Chains of configurations -/

namespace Config

open FilterChain (Call build foldl_apply SameMatchers)

variable {compile : String → Option NameMatcher} {cl cl' : CommandLine}
  {file file' : Option FileSettings} {c c' : Config}

/-- The steps that build the chain of a configuration. -/
def callsOf (includes excludes : List NameMatcher) (flags : InclusionFlags) : List Call :=
  includes.map .including ++ excludes.map .excluding ++ [.withBase flags]

theorem build_callsOf (includes excludes : List NameMatcher) (flags : InclusionFlags) :
    build (callsOf includes excludes flags) = ⟨some flags, includes, excludes⟩ := by
  rw [build, foldl_apply]
  simp [callsOf, FilterChain.lastBase?, List.filterMap_map, Function.comp_def, Call.flags?,
    Call.included?, Call.excluded?]

/-- The chain of a configuration is built from the patterns that hold and from the flags. -/
theorem filter_eq_build (hc : resolve compile cl file = .ok c) :
    ∃ includes excludes, compileAll compile (namesOf cl file).includes = .ok includes ∧
      compileAll compile (namesOf cl file).excludes = .ok excludes ∧
      c.filter = build (callsOf includes excludes c.flags) := by
  obtain ⟨includes, excludes, hincludes, hexcludes, -, rfl⟩ := resolve_eq_ok_iff.mp hc
  rw [effective_eq] at hincludes hexcludes
  rw [namesOf, cl.request_eq]
  exact ⟨includes, excludes, hincludes, hexcludes, (build_callsOf _ _ _).symm⟩

theorem sameMatchers_callsOf (includes excludes : List NameMatcher)
    (flags flags' : InclusionFlags) :
    SameMatchers (callsOf includes excludes flags) (callsOf includes excludes flags') := by
  intro call hcall
  simp [callsOf, Call.ne_withBase hcall]

/-- With the same patterns, whatever the flags, the same names are accepted. -/
theorem acceptsName_eq_of_namesOf (hc : resolve compile cl file = .ok c)
    (hc' : resolve compile cl' file' = .ok c') (hnames : namesOf cl' file' = namesOf cl file) :
    c'.filter.acceptsName = c.filter.acceptsName := by
  obtain ⟨includes, excludes, hincludes, hexcludes, hfilter⟩ := filter_eq_build hc
  obtain ⟨includes', excludes', hincludes', hexcludes', hfilter'⟩ := filter_eq_build hc'
  rw [hnames, hincludes] at hincludes'
  rw [hnames, hexcludes] at hexcludes'
  cases hincludes'
  cases hexcludes'
  rw [hfilter, hfilter', (sameMatchers_callsOf _ _ _ _).acceptsName_eq]

/-- The records that an enumeration keeps have names that are accepted with the same patterns. -/
theorem acceptsName_of_kept (hc : resolve compile cl file = .ok c)
    (hc' : resolve compile cl' file' = .ok c') (hnames : namesOf cl' file' = namesOf cl file)
    {table : Table} {r : AddressRecord}
    (hr : r ∈ (table.enumerateWith c.filter.accepts).records) :
    c'.filter.acceptsName r.interface = true := by
  rw [acceptsName_eq_of_namesOf hc hc' hnames]
  cases table with
  | error e => cases hr
  | ok records => exact ((FilterChain.accepts_iff _ r).mp (List.mem_filter.mp hr).2).1

end Config

/-- **Decisions of a chain.** A chain accepts a name exactly if no matcher that was excluded matches
it, and one that was included does, if there are any; it accepts a record exactly if it accepts the
name and the flags that were given last, if any, let the record through. Other steps with the same
matchers decide on names alike, and on records if the flags that they give last are the same. One
more excluded matcher, wherever it is added, accepts nothing that was rejected, and one more included
matcher rejects nothing that was accepted if there was one before. Of the configurations of a list
and of a watch with the same patterns, the second accepts the name of each record that the first
keeps. -/
theorem FilterChain.build_decisions (calls : List Call) :
    (∀ name, (build calls).acceptsName name = true ↔
      (∀ m, .excluding m ∈ calls → m name = false) ∧
        ((∀ m, .including m ∉ calls) ∨ ∃ m, .including m ∈ calls ∧ m name = true)) ∧
    (∀ r, (build calls).accepts r = true ↔ (build calls).acceptsName r.interface = true ∧
      ∀ flags, lastBase? calls = some flags → flags.accepts r = true) ∧
    (∀ calls', SameMatchers calls calls' →
      (build calls').acceptsName = (build calls).acceptsName ∧
      (lastBase? calls' = lastBase? calls → (build calls').accepts = (build calls).accepts)) ∧
    (∀ before after, calls = before ++ after → ∀ m r,
      ((build (before ++ .excluding m :: after)).accepts r = true →
        (build calls).accepts r = true) ∧
      ((∃ i, .including i ∈ calls) → (build calls).accepts r = true →
        (build (before ++ .including m :: after)).accepts r = true)) ∧
    ∀ compile cl cl' file file' c c', Config.resolve compile cl file = .ok c →
      Config.resolve compile cl' file' = .ok c' →
      Config.namesOf cl' file' = Config.namesOf cl file →
      ∀ table : Table, ∀ r ∈ (table.enumerateWith c.filter.accepts).records,
        c'.filter.acceptsName r.interface = true := by
  refine ⟨fun name => ?_, fun r => ?_, fun calls' h => ⟨h.acceptsName_eq, h.accepts_eq⟩, ?_, ?_⟩
  · rw [acceptsName_build]
    exact ⟨fun h => ⟨h.excluded, h.included⟩, fun h => ⟨h.1, h.2⟩⟩
  · rw [accepts_iff, base_build]
  · rintro before after rfl m r
    exact ⟨accepts_of_excluding, accepts_including⟩
  · intro compile cl cl' file file' c c' hc hc' hnames table r hr
    exact Config.acceptsName_of_kept hc hc' hnames hr

/-- A chain that is built in another order, without the flags that are replaced and with a matcher
twice, accepts the same record; it still does with a second included matcher. The record is kept by
a list, and its name is accepted by a watch with the same pattern. -/
theorem FilterChain.build_decisions_of_rearranged :
    let calls : List Call :=
      [.withBase .everything, .including (· == "eth0"), .excluding (· == "lo"), .withBase .ipv4Only]
    let calls' : List Call :=
      [.excluding (· == "lo"), .withBase .ipv4Only, .including (· == "eth0"), .excluding (· == "lo")]
    let r : AddressRecord := ⟨"eth0", .v4 ⟨10, 0, 0, 2⟩, 24, true, false⟩
    let list : CommandLine :=
      ⟨.list { flags := { ipv6 := true }, names := { includes := ["eth0"] } }, none, false⟩
    (build calls').accepts r = true ∧
    (build (.including (· == "wlan0") :: calls)).accepts r = true ∧
    ∃ c c', Config.resolve Config.literally list none = .ok c ∧
      Config.resolve Config.literally (Config.watchOf ["eth0"]) none = .ok c' ∧
      c'.filter.acceptsName "eth0" = true := by
  intro calls calls' r list
  obtain ⟨-, -, hrearranged, hadded, hlisted⟩ := build_decisions calls
  have haccepts : (build calls).accepts r = true := by decide
  have hsame : SameMatchers calls calls' := by
    intro call hcall
    simp only [calls, calls', List.mem_cons, List.not_mem_nil, Call.ne_withBase hcall, false_or,
      or_false]
    tauto
  refine ⟨?_, ?_, _, _, rfl, rfl, ?_⟩
  · rw [(hrearranged calls' hsame).2 rfl]
    exact haccepts
  · exact (hadded [] calls rfl _ r).2 ⟨(· == "eth0"), by simp [calls]⟩ haccepts
  · exact hlisted Config.literally list (Config.watchOf ["eth0"]) none none _ _ rfl rfl rfl (.ok [r]) r
      (by decide)

end AddressWatch
