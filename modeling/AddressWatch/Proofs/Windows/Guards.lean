/-
  AddressWatch.Proofs.Windows.Guards

  References to the socket library as guards that are held and dropped. Any number of them is live,
  attempts to take one more succeed or fail as the system answers, and live ones are dropped in any
  order (`Guards.Step`). The count that decides when the library is started and ended is the number
  of live guards (`Guards.Runs.sound`), so only an attempt without a live guard starts it and only
  the drop of the last one ends it (`Guards.references_counted`).
-/

import AddressWatch.Proofs.Windows.Balance

namespace AddressWatch.Windows

/-! ## One attempt and one drop -/

namespace System

variable {s₀ s : System} {n k l : Nat}

/-- The answer to the next start of the socket library, by a system that had the plan of `s₀`. -/
def nextStartup (s₀ s : System) : UInt32 :=
  s₀.startupCodes.getD (s.calls.countP Call.starts) noError

theorem Balanced.startup_eq (hs : Balanced s₀ s n k l) (version : Nat) :
    (s.startup version).1 = nextStartup s₀ s := by
  rw [startup, hs.startupCodes, head?_drop_getD, nextStartup]

/-- Without references an attempt asks the system, whatever it answers. -/
theorem calls_acquire_of_zero (hs : s.holders = 0) :
    s.acquire.2.calls = .startup winsockVersion :: s.calls := by
  by_cases hcode : (s.startup winsockVersion).1 = noError
  · rw [acquire_of_success hs hcode]
    rfl
  · rw [acquire_of_failure hs hcode]
    rfl

/-- A refused attempt leaves no reference behind, so that the next one asks the system again. -/
theorem holders_of_refused {e : WindowsError} (ha : s.acquire.1 = .error e) :
    s.holders = 0 ∧ s.acquire.2.holders = 0 := by
  obtain ⟨hs, -, -, hacquire⟩ := of_acquire_error ha
  rw [hacquire]
  exact ⟨hs, hs⟩

end System

/-! ## Guards -/

/-- The live guards, by numbers of their own, and the system that they refer to. -/
structure Guards where
  live : List Nat
  system : System

namespace Guards

/-- An attempt to take a guard, which is made or refused as the system answers, or the drop of any
guard that is live. -/
inductive Step : Guards → Guards → Prop
  | taken {live : List Nat} {s : System} {i : Nat} (hi : i ∉ live) (ha : s.acquire.1 = .ok ()) :
      Step ⟨live, s⟩ ⟨i :: live, s.acquire.2⟩
  | refused {live : List Nat} {s : System} {e : WindowsError} (ha : s.acquire.1 = .error e) :
      Step ⟨live, s⟩ ⟨live, s.acquire.2⟩
  | dropped {live : List Nat} {s : System} {i : Nat} (hi : i ∈ live) :
      Step ⟨live, s⟩ ⟨live.erase i, s.release⟩

/-- Starting without guards in the system `s₀`, steps lead to `g`. -/
inductive Runs (s₀ : System) : Guards → Prop
  | fresh : Runs s₀ ⟨[], s₀⟩
  | step {g g' : Guards} (hr : Runs s₀ g) (hg : Step g g') : Runs s₀ g'

/-- What every run keeps up: no guard is live twice, and the references that are held are those of
the live guards. -/
structure Sound (s₀ : System) (g : Guards) : Prop where
  nodup : g.live.Nodup
  balanced : s₀.Balanced g.system g.live.length 0 0

theorem Sound.step {s₀ : System} {g g' : Guards} (hg : Sound s₀ g) (hst : Step g g') :
    Sound s₀ g' := by
  obtain ⟨hnodup, hbalanced⟩ := hg
  cases hst with
  | taken hi ha => exact ⟨List.nodup_cons.mpr ⟨hi, hnodup⟩, hbalanced.acquire_ok ha⟩
  | refused ha => exact ⟨hnodup, hbalanced.acquire_error ha⟩
  | @dropped live s i hi =>
      -- One guard fewer is live, and there was one to drop.
      have hlength : live.length = (live.erase i).length + 1 := by
        have hpos := List.length_pos_of_mem hi
        rw [List.length_erase_of_mem hi]
        omega
      have hheld : s₀.Balanced s ((live.erase i).length + 1) 0 0 := hlength ▸ hbalanced
      exact ⟨hnodup.erase i, hheld.release⟩

/-- Every run is sound, whatever the answers of the system are. -/
theorem Runs.sound {s₀ : System} {g : Guards} (hcalls : s₀.calls = []) (hholders : s₀.holders = 0)
    (hr : Runs s₀ g) : Sound s₀ g := by
  induction hr with
  | fresh => exact ⟨List.nodup_nil, System.balanced_fresh hcalls hholders⟩
  | step hr hst ih => exact ih.step hst

section Sound

variable {s₀ : System} {g : Guards} (hg : Sound s₀ g)

include hg

/-- The library was started once more than it was ended exactly while a guard is live. -/
theorem Sound.started :
    (s₀.startups g.system : Int) - g.system.cleanups = if g.live = [] then 0 else 1 := by
  have hstarted := hg.balanced.started
  by_cases hlive : g.live = []
  · rw [hlive, List.length_nil, if_pos rfl] at hstarted
    rw [if_pos hlive]
    omega
  · have hlength : ¬ g.live.length = 0 := by
      rw [List.length_eq_zero_iff]
      exact hlive
    rw [if_neg hlength] at hstarted
    rw [if_neg hlive]
    omega

/-- While a guard is live, one more is taken without a call. -/
theorem Sound.acquire_of_live (hlive : g.live ≠ []) :
    g.system.acquire.1 = .ok () ∧ g.system.acquire.2.calls = g.system.calls := by
  have hheld : g.system.holders ≠ 0 := by
    rw [hg.balanced.holders]
    exact fun hlength => hlive (List.length_eq_zero_iff.mp hlength)
  rw [System.acquire_of_held hheld]
  exact ⟨rfl, rfl⟩

/-- Without a live guard the system decides: its answer is the error of the attempt, if it is one. -/
theorem Sound.acquire_of_none (hlive : g.live = []) :
    g.system.acquire.2.calls = .startup System.winsockVersion :: g.system.calls ∧
    g.system.acquire.1 = if s₀.nextStartup g.system = System.noError then .ok ()
      else .error (g.system.failure (s₀.nextStartup g.system)) := by
  have hzero : g.system.holders = 0 := by rw [hg.balanced.holders, hlive, List.length_nil]
  refine ⟨System.calls_acquire_of_zero hzero, ?_⟩
  have hanswer := hg.balanced.startup_eq System.winsockVersion
  split
  · next hcode => rw [System.acquire_of_success hzero (hanswer.trans hcode)]
  · next hcode =>
      rw [← hanswer] at hcode ⊢
      rw [System.acquire_of_failure hzero hcode]

/-- The drop of a guard lowers a count that is not zero, and ends the library if no other guard is
live. -/
theorem Sound.release_of_mem {i : Nat} (hi : i ∈ g.live) :
    g.system.release.holders + 1 = g.system.holders ∧
    g.system.release.calls =
      if g.live.erase i = [] then .cleanup :: g.system.calls else g.system.calls := by
  have hpos := List.length_pos_of_mem hi
  have hholders := hg.balanced.holders
  have hlast : g.system.holders - 1 = 0 ↔ g.live.erase i = [] := by
    rw [← List.length_eq_zero_iff, List.length_erase_of_mem hi, hholders]
  constructor
  · rw [System.holders_release]
    omega
  · rw [System.calls_release]
    simp only [hlast]

end Sound

/-- **Counted references.** After any attempts and drops, with any answers of the system, the
references held are the live guards, and the library was started once more than it was ended exactly
if there are any. An attempt while a guard is live succeeds without a call. One without a live guard
starts the library, and succeeds if the answer is no error; otherwise it fails with that answer, no
reference is held, nothing else was called, and another attempt starts the library again. A drop
finds a count that is not zero, and ends the library if the guard was the last one; otherwise it
makes no call. -/
theorem references_counted {s₀ : System} {g : Guards} (hcalls : s₀.calls = [])
    (hholders : s₀.holders = 0) (hr : Runs s₀ g) :
    g.system.holders = g.live.length ∧
    (s₀.startups g.system : Int) - g.system.cleanups = (if g.live = [] then 0 else 1) ∧
    (g.live ≠ [] →
      g.system.acquire.1 = .ok () ∧ g.system.acquire.2.calls = g.system.calls) ∧
    (g.live = [] →
      g.system.acquire.2.calls = .startup 0x0202 :: g.system.calls ∧
      g.system.acquire.1 = if s₀.nextStartup g.system = System.noError then .ok ()
        else .error (g.system.failure (s₀.nextStartup g.system))) ∧
    (∀ e, g.system.acquire.1 = .error e →
      g.system.acquire.2.holders = 0 ∧
      g.system.acquire.2.calls = .startup 0x0202 :: g.system.calls ∧
      g.system.acquire.2.acquire.2.calls =
        .startup 0x0202 :: .startup 0x0202 :: g.system.calls) ∧
    ∀ i ∈ g.live, g.system.release.holders + 1 = g.system.holders ∧
      g.system.release.calls =
        if g.live.erase i = [] then .cleanup :: g.system.calls else g.system.calls := by
  have hg := hr.sound hcalls hholders
  refine ⟨hg.balanced.holders, hg.started, hg.acquire_of_live, hg.acquire_of_none, fun e ha => ?_,
    fun i hi => hg.release_of_mem hi⟩
  obtain ⟨hzero, hafter⟩ := System.holders_of_refused ha
  have hcall := System.calls_acquire_of_zero hzero
  have hagain := System.calls_acquire_of_zero hafter
  rw [hcall] at hagain
  exact ⟨hafter, hcall, hagain⟩

/-- After an attempt that was refused two guards are taken, of which the first one is dropped
first. The drop of the other one ends the library. -/
theorem references_counted_of_refused :
    ∃ g, Runs { startupCodes := [10091] } g ∧ g.live = [1] ∧ g.system.holders = 1 ∧
      (System.startups { startupCodes := [10091] } g.system : Int) - g.system.cleanups = 1 ∧
      g.system.release.calls = .cleanup :: g.system.calls := by
  let s₀ : System := { startupCodes := [10091] }
  let s₁ := s₀.acquire.2
  have hrefused : Runs s₀ ⟨[], s₁⟩ := Runs.fresh.step (Step.refused (e := s₀.failure 10091) rfl)
  have htaken : Runs s₀ ⟨[1, 0], s₁.acquire.2.acquire.2⟩ :=
    (hrefused.step (Step.taken (i := 0) List.not_mem_nil rfl)).step
      (Step.taken (i := 1) (by decide) rfl)
  have hr : Runs s₀ ⟨[1], s₁.acquire.2.acquire.2.release⟩ :=
    htaken.step (Step.dropped (i := 0) (by decide))
  obtain ⟨hheld, hstarted, -, -, -, hdrop⟩ := references_counted rfl rfl hr
  have hlast := (hdrop 1 (by decide)).2
  exact ⟨_, hr, rfl, hheld, hstarted, hlast⟩

end Guards

end AddressWatch.Windows
