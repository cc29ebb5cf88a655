/-
  AddressWatch.Proofs.Monitor.Lifecycle

  The life of a monitor. Every effect belongs to a state of life and leads to the next one
  (`MonitorState.after?`); whatever is asked of a monitor, and whatever its source and its receiver
  do, its effects lead from created over running to stopped and never back, and its source is open
  exactly while it is running (`Reaches.lives`). So a source opens at most once, is asked only while
  it is open, and is given back exactly once (`lifecycle`).
-/

import AddressWatch.Monitor.Script
import AddressWatch.Proofs.Monitor.Operation

namespace AddressWatch

/-! ## States of life along effects -/

namespace MonitorState

/-- The state of life after an effect, if the effect belongs to the state before it: only a created
monitor opens its source, and only a running one asks it, delivers, pauses and gives it back. -/
def after? : MonitorState → Effect → Option MonitorState
  | .created, .opened succeeded => some (if succeeded then .running else .created)
  | .running, .asked _ => some .running
  | .running, .delivered _ => some .running
  | .running, .paused _ => some .running
  | .running, .released => some .stopped
  | s, .performed _ => some s
  | _, _ => none

/-- The state of life after effects, if each of them belongs to the state it meets. -/
def along (s : MonitorState) (effects : List Effect) : Option MonitorState :=
  effects.foldlM after? s

/-- `Advances s s'`: an operation may leave a monitor that was in `s` in `s'`. -/
inductive Advances : MonitorState → MonitorState → Prop
  | same (s : MonitorState) : Advances s s
  | start : Advances .created .running
  | stop : Advances .running .stopped

@[simp] theorem along_nil (s : MonitorState) : s.along [] = some s := rfl

theorem along_cons (s : MonitorState) (e : Effect) (effects : List Effect) :
    s.along (e :: effects) = (s.after? e).bind (·.along effects) := by
  rw [along, List.foldlM_cons]
  rfl

theorem along_append (s : MonitorState) (xs ys : List Effect) :
    s.along (xs ++ ys) = (s.along xs).bind (·.along ys) := by
  rw [along, List.foldlM_append]
  rfl

/-- Effects that lead to a state and effects that go on from there. -/
theorem along_append_of {s s' s'' : MonitorState} {xs ys : List Effect}
    (hx : s.along xs = some s') (hy : s'.along ys = some s'') : s.along (xs ++ ys) = some s'' := by
  rw [along_append, hx]
  exact hy

@[simp] theorem after?_performed (s : MonitorState) (a : Action) :
    s.after? (.performed a) = some s := by
  cases s <;> rfl

/-- What is done on the side changes nothing. -/
theorem along_performed (s : MonitorState) (actions : List Action) :
    s.along (actions.map .performed) = some s := by
  induction actions with
  | nil => rfl
  | cons a rest ih =>
      rw [List.map_cons, along_cons, after?_performed]
      exact ih

/-! ## Counting along effects -/

/-- How many sources a monitor in the state has opened. -/
def opened : MonitorState → Nat
  | .created => 0
  | .running | .stopped => 1

/-- How many sources a monitor in the state has given back. -/
def released : MonitorState → Nat
  | .created | .running => 0
  | .stopped => 1

theorem opened_le_one (s : MonitorState) : s.opened ≤ 1 := by
  cases s <;> decide

/-- What was opened and not given back is the source of a running monitor. -/
theorem opened_eq (s : MonitorState) :
    s.opened = s.released + (if s = .running then 1 else 0) := by
  cases s <;> rfl

/-- One effect opens and gives back what the states before and after it say. -/
theorem counts_of_after? {s s' : MonitorState} {e : Effect} (hs : s.after? e = some s') :
    s.opened + Effect.opens [e] = s'.opened ∧ s.released + Effect.releases [e] = s'.released := by
  cases e with
  | opened succeeded =>
      -- Only created takes an opening, and only one that succeeded counts.
      cases s <;> cases succeeded <;> cases hs <;> decide
  | asked timeout | delivered event | paused length =>
      cases s <;> cases hs
      exact ⟨rfl, rfl⟩
  | performed a =>
      rw [after?_performed, Option.some.injEq] at hs
      rw [hs]
      exact ⟨rfl, rfl⟩
  | released =>
      cases s <;> cases hs
      decide

theorem counts_of_along {s s' : MonitorState} {effects : List Effect}
    (hs : s.along effects = some s') :
    s.opened + Effect.opens effects = s'.opened ∧
      s.released + Effect.releases effects = s'.released := by
  induction effects generalizing s with
  | nil =>
      rw [along_nil, Option.some.injEq] at hs
      rw [hs]
      exact ⟨rfl, rfl⟩
  | cons e rest ih =>
      rw [along_cons, Option.bind_eq_some_iff] at hs
      obtain ⟨mid, hmid, hrest⟩ := hs
      have hfirst := counts_of_after? hmid
      have htail := ih hrest
      have ho := Effect.opens_append [e] rest
      have hr := Effect.releases_append [e] rest
      rw [List.singleton_append] at ho hr
      omega

/-- Once a monitor is no longer created, it stays so and never asks its source to open. -/
theorem openings_of_after? {s s' : MonitorState} {e : Effect} (hne : s ≠ .created)
    (hs : s.after? e = some s') : Effect.openings [e] = 0 ∧ s' ≠ .created := by
  cases s with
  | created => exact absurd rfl hne
  | running => cases e <;> cases hs <;> exact ⟨rfl, by decide⟩
  | stopped =>
      cases e <;> cases hs
      exact ⟨rfl, by decide⟩

theorem openings_of_along {s s' : MonitorState} {effects : List Effect} (hne : s ≠ .created)
    (hs : s.along effects = some s') : Effect.openings effects = 0 ∧ s' ≠ .created := by
  induction effects generalizing s with
  | nil =>
      rw [along_nil, Option.some.injEq] at hs
      exact ⟨rfl, hs ▸ hne⟩
  | cons e rest ih =>
      rw [along_cons, Option.bind_eq_some_iff] at hs
      obtain ⟨mid, hmid, hrest⟩ := hs
      have hfirst := openings_of_after? hne hmid
      have htail := ih hfirst.2 hrest
      have ho := Effect.openings_append [e] rest
      rw [List.singleton_append] at ho
      exact ⟨by omega, htail.2⟩

end MonitorState

namespace Monitor

variable {σ β : Type} {h : Host σ β}

/-! ## Effects of a call -/

/-- What follows from the occurrences of a call belongs to a running monitor. -/
theorem along_relay (raised : Bool) (w : σ) (os : List Occurrence) :
    MonitorState.running.along (relay h raised w os).2.2 = some .running := by
  induction os generalizing raised w with
  | nil => rfl
  | cons o rest ih =>
      cases o with
      | change event =>
          show MonitorState.running.along ((h.receive event w).1.map .performed ++ _) = _
          exact MonitorState.along_append_of (MonitorState.along_performed _ _) (ih _ _)
      | signal =>
          exact MonitorState.along_append_of (MonitorState.along_performed _ _) (ih _ _)
      | action a => exact ih _ _

theorem along_effects (timeout : Wait) (s : Session σ β) :
    MonitorState.running.along (s.effects h timeout) = some .running :=
  along_relay _ _ _

theorem along_pauseAfter (m : Monitor β) (outcome : Outcome) :
    MonitorState.running.along (m.pauseAfter outcome) = some .running := by
  cases outcome <;> rfl

/-! ## What every operation preserves -/

/-- The source is open exactly while the monitor is running. -/
def Consistent (m : Monitor β) : Prop := m.backend.isSome = true ↔ m.state = .running

/-- The turn belongs to the life of the monitor: its effects lead from the state before it to the
state after it, and the source is open then exactly if that is running. -/
structure Lives (m : Monitor β) (t : Turn σ β) : Prop where
  consistent : t.monitor.Consistent
  along : m.state.along t.effects = some t.monitor.state

/-- Turns of a life that follow one another are a turn of it. -/
theorem Lives.after {m : Monitor β} {t t' : Turn σ β} (ht : Lives m t) (ht' : Lives t.monitor t') :
    Lives m (t'.after t.effects) :=
  ⟨ht'.consistent, MonitorState.along_append_of ht.along ht'.along⟩

theorem consistent_new : (Monitor.new β).Consistent := by
  constructor <;> intro hc <;> cases hc

theorem Consistent.state_of_backend {m : Monitor β} {b : β} (hc : m.Consistent)
    (hb : m.backend = some b) : m.state = .running :=
  hc.mp (by rw [hb]; rfl)

theorem Consistent.exists_backend {m : Monitor β} (hc : m.Consistent)
    (hm : m.state = .running) : ∃ b, m.backend = some b :=
  Option.isSome_iff_exists.mp (hc.mpr hm)

/-- A refused operation leaves the life where it is. -/
theorem lives_fail {α : Type} {m : Monitor β} (hc : m.Consistent) (e : MonitorError) (w : σ) :
    Lives m (m.fail e w [] : Step σ β α).turn :=
  ⟨hc, rfl⟩

theorem along_openingLog (s : MonitorState) (o : Opening σ β) :
    s.along (openingLog o) = some s := by
  have hmap := MonitorState.along_performed s (o.log.map Action.log)
  rw [List.map_map] at hmap
  exact hmap

theorem lives_start {m : Monitor β} (hc : m.Consistent) (w : σ) : Lives m (m.start h w).turn := by
  by_cases hm : m.state = .created
  · cases ho : (h.openBackend w).backend with
    | ok b =>
        rw [start_of_ok hm ho]
        refine ⟨⟨fun _ => rfl, fun _ => rfl⟩, ?_⟩
        rw [hm]
        exact MonitorState.along_append_of (along_openingLog _ _) rfl
    | error e =>
        -- A source that does not open leaves the monitor created, to be started again.
        rw [start_of_error hm ho]
        refine ⟨hc, ?_⟩
        show m.state.along _ = some m.state
        rw [hm]
        exact MonitorState.along_append_of (along_openingLog _ _) rfl
  · rw [start_of_refused hm]
    exact lives_fail hc _ w

theorem consistent_halted (m : Monitor β) : m.halted.Consistent := by
  constructor <;> intro hc <;> cases hc

theorem lives_stop {m : Monitor β} (hc : m.Consistent) (w : σ) : Lives m (m.stop h w).turn := by
  by_cases hm : m.state = .running
  · obtain ⟨b, hb⟩ := hc.exists_backend hm
    rw [stop_of_running hm hb]
    refine ⟨consistent_halted m, ?_⟩
    rw [hm]
    rfl
  · rw [stop_of_refused hm]
    exact lives_fail hc _ w

theorem lives_process {m : Monitor β} (hc : m.Consistent) (timeout : Wait) (w : σ) :
    Lives m (m.process h timeout w).turn := by
  cases hb : m.backend with
  | none =>
      rw [process_of_none hb]
      exact lives_fail hc _ w
  | some b =>
      have hm : m.state = .running := hc.state_of_backend hb
      have hcalled := along_effects (h := h) timeout (m.session b w)
      cases ho : ((m.session b w).reaction h timeout).outcome with
      | ok outcome =>
          rw [process_of_ok hb ho]
          refine ⟨⟨fun _ => hm, fun _ => rfl⟩, ?_⟩
          show m.state.along _ = some m.state
          rw [hm]
          exact hcalled
      | error e =>
          cases he : e.isFatal with
          | false =>
              rw [process_of_error hb ho he]
              refine ⟨⟨fun _ => hm, fun _ => rfl⟩, ?_⟩
              show m.state.along _ = some m.state
              rw [hm]
              exact hcalled
          | true =>
              -- The source is given back after everything that the call did.
              rw [process_of_fatal hb ho he]
              refine ⟨consistent_halted m, ?_⟩
              rw [hm]
              exact MonitorState.along_append_of hcalled rfl

/-- A round is a call that succeeded, with the pause after it. -/
theorem lives_round {m : Monitor β} {w : σ} {t : Turn σ β} (hc : m.Consistent)
    (hp : Performs h m w .round t) : Lives m t := by
  cases hp with
  | round hm hf ho =>
      obtain ⟨b, hb, hr⟩ := exists_backend_of_ok ho
      have hlives := lives_process (h := h) hc (some m.slice) w
      have hstate := isRunning_iff.mp hm
      rw [process_of_ok hb hr] at hlives ⊢
      refine ⟨hlives.consistent, MonitorState.along_append_of hlives.along ?_⟩
      show m.state.along _ = some m.state
      rw [hstate]
      exact along_pauseAfter m _

/-- The loop lives its rounds and its end. -/
theorem lives_processBlocking {m : Monitor β} {w : σ} {fuel : Nat} {s : Step σ β Unit}
    (hc : m.Consistent) (hs : m.processBlocking h fuel w = some s) : Lives m s.turn := by
  by_cases hm : m.state = .running
  · have hrunning := isRunning_iff.mpr hm
    rw [processBlocking, if_pos hrunning] at hs
    -- The motive carries consistency: each round needs it of the monitor it finds.
    refine slices_induction (P := fun m _ t => m.Consistent → Lives m t) ?_ ?_ ?_ fuel hrunning hs hc
    · intro m w _ _ hc
      exact ⟨hc, MonitorState.along_performed m.state [_]⟩
    · intro m w e _ _ _ hc
      exact lives_process hc _ w
    · intro m w t t' _ hp ih hc
      have hround := lives_round hc hp
      exact hround.after (ih hround.consistent)
  · rw [processBlocking_of_refused fuel hm, Option.some.injEq] at hs
    rw [← hs]
    exact lives_fail hc _ w

/-- Every operation keeps a monitor in its life, whatever the source and the receiver do. -/
theorem Performs.lives {m : Monitor β} {w : σ} {op : Operation} {t : Turn σ β}
    (hp : Performs h m w op t) (hc : m.Consistent) : Lives m t := by
  cases hp with
  | start => exact lives_start hc w
  | stop => exact lives_stop hc w
  | process timeout => exact lives_process hc timeout w
  | processBlocking hs => exact lives_processBlocking hc hs
  | round hm hf ho => exact lives_round hc (.round hm hf ho)
  | withShutdown raised => exact ⟨hc, rfl⟩
  | withSlice slice => exact ⟨hc, rfl⟩
  | withBackoff backoff => exact ⟨hc, rfl⟩
  | trigger => exact ⟨hc, rfl⟩

/-- A monitor that was reached is consistent, and all effects so far lead from created to its
state. -/
theorem Reaches.lives {turns : List (Operation × Turn σ β)} {m : Monitor β} {w : σ}
    (hr : Reaches h turns m w) :
    m.Consistent ∧ MonitorState.created.along (allEffects turns) = some m.state := by
  induction hr with
  | new w => exact ⟨consistent_new, rfl⟩
  | meanwhile hr w' ih => exact ih
  | perform hr hp ih =>
      have hlives := hp.lives ih.1
      refine ⟨hlives.consistent, ?_⟩
      rw [allEffects_append_singleton]
      exact MonitorState.along_append_of ih.2 hlives.along

/-! ## Which operation does what -/

/-- An operation other than a successful start that is asked of a monitor that is not running has
no effects and leaves the state as it was. -/
theorem Performs.idle {m : Monitor β} {w : σ} {op : Operation} {t : Turn σ β}
    (hp : Performs h m w op t) (hc : m.Consistent) (hm : m.state ≠ .running)
    (hop : op = .start → m.state ≠ .created) : t.effects = [] ∧ t.monitor.state = m.state := by
  cases hp with
  | start =>
      rw [start_of_refused (hop rfl)]
      exact ⟨rfl, rfl⟩
  | stop =>
      rw [stop_of_refused hm]
      exact ⟨rfl, rfl⟩
  | process timeout =>
      cases hb : m.backend with
      | none =>
          rw [process_of_none hb]
          exact ⟨rfl, rfl⟩
      -- Here `process` looks at the source and not at the state; consistency ties the two.
      | some b => exact absurd (hc.state_of_backend hb) hm
  | @processBlocking fuel s hs =>
      rw [processBlocking_of_refused fuel hm, Option.some.injEq] at hs
      rw [← hs]
      exact ⟨rfl, rfl⟩
  | round hr hf ho => exact absurd (isRunning_iff.mp hr) hm
  | withShutdown raised => exact ⟨rfl, rfl⟩
  | withSlice slice => exact ⟨rfl, rfl⟩
  | withBackoff backoff => exact ⟨rfl, rfl⟩
  | trigger => exact ⟨rfl, rfl⟩

theorem advances_of_along {s s' : MonitorState} {effects : List Effect} (hs : s ≠ .created)
    (ha : s.along effects = some s') (hstop : s = .stopped → s' = .stopped) : s.Advances s' := by
  have hne := (MonitorState.openings_of_along hs ha).2
  cases s with
  | created => exact absurd rfl hs
  | running =>
      cases s' with
      | created => exact absurd rfl hne
      | running => exact .same _
      | stopped => exact .stop
  | stopped =>
      rw [hstop rfl]
      exact .same _

/-- A start in created asks the source to open exactly once, and leaves the monitor created or
running. -/
theorem start_of_created {m : Monitor β} (hm : m.state = .created) (w : σ) :
    Effect.openings (m.start h w).effects = 1 ∧ Effect.timeouts (m.start h w).effects = [] ∧
      m.state.Advances (m.start h w).monitor.state := by
  have hlog : ∀ o : Opening σ β, Effect.openings (openingLog o) = 0 ∧
      Effect.timeouts (openingLog o) = [] := by
    intro o
    constructor
    · rw [Effect.openings, List.countP_eq_zero, openingLog]
      simp
    · rw [Effect.timeouts, List.filterMap_eq_nil_iff, openingLog]
      simp
  cases ho : (h.openBackend w).backend with
  | ok b =>
      rw [start_of_ok hm ho, hm, Effect.openings_append, Effect.timeouts_append, (hlog _).1,
        (hlog _).2]
      exact ⟨rfl, rfl, .start⟩
  | error e =>
      rw [start_of_error hm ho, hm, Effect.openings_append, Effect.timeouts_append, (hlog _).1,
        (hlog _).2]
      refine ⟨rfl, rfl, ?_⟩
      show MonitorState.created.Advances m.state
      rw [hm]
      exact .same _

/-- What one operation does to the life of a consistent monitor. -/
theorem Performs.effects_in_life {m : Monitor β} {w : σ} {op : Operation} {t : Turn σ β}
    (hp : Performs h m w op t) (hc : m.Consistent) :
    m.state.Advances t.monitor.state ∧
      Effect.openings t.effects = (if op = .start ∧ m.state = .created then 1 else 0) ∧
      (Effect.timeouts t.effects ≠ [] → m.state = .running) := by
  -- The operation is the one that opens, or it meets a running monitor, or it is idle.
  by_cases hstart : op = .start ∧ m.state = .created
  · obtain ⟨rfl, hm⟩ := hstart
    cases hp with
    | start =>
        obtain ⟨hopen, hasked, hadv⟩ := start_of_created (h := h) hm w
        rw [if_pos ⟨rfl, hm⟩]
        exact ⟨hadv, hopen, fun hne => absurd hasked hne⟩
  · rw [if_neg hstart]
    by_cases hm : m.state = .running
    · have halong := (hp.lives hc).along
      have hne : m.state ≠ .created := by rw [hm]; decide
      have hstop : m.state = .stopped → t.monitor.state = .stopped := by
        intro hs
        rw [hm] at hs
        cases hs
      exact ⟨advances_of_along hne halong hstop, (MonitorState.openings_of_along hne halong).1,
        fun _ => hm⟩
    · have hop : op = .start → m.state ≠ .created := fun ho hs => hstart ⟨ho, hs⟩
      obtain ⟨heffects, hstate⟩ := hp.idle hc hm hop
      rw [heffects, hstate]
      exact ⟨.same _, rfl, fun hne => absurd rfl hne⟩

/-! ## The life of a monitor -/

/-- **The life of a monitor.** In every monitor that was reached, the source is open exactly if the
state is running. Whatever is asked of it next, the state stays or advances by one; the source is
asked to open exactly by a start in created, and is asked for notifications only in running. All
effects so far belong to the states they met; at most one opening succeeded; sources opened exceed
sources given back by one in running and by none otherwise, and by none after the drop. -/
theorem lifecycle {turns : List (Operation × Turn σ β)} {m : Monitor β} {w : σ}
    (hr : Reaches h turns m w) :
    (m.backend.isSome = true ↔ m.state = .running) ∧
    (∀ op t, Performs h m w op t →
      m.state.Advances t.monitor.state ∧
      Effect.openings t.effects = (if op = .start ∧ m.state = .created then 1 else 0) ∧
      (Effect.timeouts t.effects ≠ [] → m.state = .running)) ∧
    MonitorState.created.along (allEffects turns) = some m.state ∧
    Effect.opens (allEffects turns) ≤ 1 ∧
    Effect.opens (allEffects turns) =
      Effect.releases (allEffects turns) + (if m.state = .running then 1 else 0) ∧
    Effect.opens (allEffects turns ++ (m.drop h w).2) =
      Effect.releases (allEffects turns ++ (m.drop h w).2) := by
  obtain ⟨hc, halong⟩ := hr.lives
  -- The counts are those of the state that the effects lead to.
  obtain ⟨hopens, hreleases⟩ := MonitorState.counts_of_along halong
  rw [MonitorState.opened, Nat.zero_add] at hopens
  rw [MonitorState.released, Nat.zero_add] at hreleases
  have hle : Effect.opens (allEffects turns) ≤ 1 := by
    rw [hopens]
    exact m.state.opened_le_one
  have hcount : Effect.opens (allEffects turns) =
      Effect.releases (allEffects turns) + (if m.state = .running then 1 else 0) := by
    rw [hopens, hreleases]
    exact m.state.opened_eq
  refine ⟨hc, fun op t hp => hp.effects_in_life hc, halong, hle, hcount, ?_⟩
  rw [Effect.opens_append, Effect.releases_append, hcount]
  by_cases hm : m.state = .running
  · obtain ⟨b, hb⟩ := hc.exists_backend hm
    rw [drop_of_running hm hb, if_pos hm]
    rfl
  · rw [drop_of_refused hm, if_neg hm]
    rfl

/-- A source that does not open at first, then opens and fails for good when it is asked. -/
theorem lifecycle_of_fatal_error :
    let w : Script × EventCounter :=
      (⟨[some .unsupported], [⟨false, [], .error .disconnected⟩]⟩, ⟨0, none⟩)
    let t₁ := ((Monitor.new Unit).start Script.host w).turn
    let t₂ := (t₁.monitor.start Script.host t₁.world).turn
    let t₃ := (t₂.monitor.process Script.host none t₂.world).turn
    let turns := [(Operation.start, t₁), (.start, t₂), (.process none, t₃)]
    Reaches Script.host turns t₃.monitor t₃.world ∧ t₃.monitor.state = .stopped ∧
      Effect.opens (allEffects turns) = 1 ∧ Effect.releases (allEffects turns) = 1 := by
  intro w t₁ t₂ t₃ turns
  have hr : Reaches Script.host turns t₃.monitor t₃.world :=
    (((Reaches.new w).perform .start).perform .start).perform (.process none)
  have hstate : t₃.monitor.state = .stopped := rfl
  obtain ⟨-, -, -, hle, hcount, -⟩ := lifecycle hr
  -- The second start opened the source; the theorem has the rest of the counts.
  have hopens : 1 ≤ Effect.opens (allEffects turns) := by
    show 1 ≤ Effect.opens (t₁.effects ++ (t₂.effects ++ (t₃.effects ++ [])))
    rw [Effect.opens_append, Effect.opens_append]
    have hsecond : Effect.opens t₂.effects = 1 := by decide
    omega
  rw [hstate] at hcount
  simp only [reduceCtorEq, if_false] at hcount
  exact ⟨hr, hstate, by omega, by omega⟩

end Monitor

end AddressWatch
