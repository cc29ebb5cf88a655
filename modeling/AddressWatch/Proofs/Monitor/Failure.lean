/-
  AddressWatch.Proofs.Monitor.Failure

  What a failure does to a monitor. An operation that fails makes its error the last one, and no
  other operation touches that memory (`Performs.records`). A refused operation and an opening that
  fails change nothing else (`Performs.eq_of_refusal`, `Performs.of_opening_failed`). Any other
  failure is that of a call of the source (`SourceFailed`): a fatal one gives the source back, and
  after one that is not the same source can be asked again (`failures`).
-/

import AddressWatch.Monitor.Script
import AddressWatch.Proofs.Monitor.BlockingLoop
import AddressWatch.Proofs.Monitor.Lifecycle

namespace AddressWatch.Monitor

variable {σ β : Type} {h : Host σ β}

/-! ## The last error -/

/-- The last error after the turn is that of the turn, if it failed, and else the one before it. -/
def Records (m : Monitor β) (t : Turn σ β) : Prop :=
  t.monitor.lastError = (t.error.map LastError.ofError).or m.lastError

/-- A turn that did not fail leaves it to the next one to record an error. -/
theorem Records.after {m : Monitor β} {t t' : Turn σ β} (ht : Records m t) (hok : t.error = none)
    (ht' : Records t.monitor t') : Records m (t'.after t.effects) := by
  have hsame : t.monitor.lastError = m.lastError := by
    rw [ht, hok]
    rfl
  show t'.monitor.lastError = (t'.error.map LastError.ofError).or m.lastError
  rw [ht', hsame]

theorem records_fail {α : Type} (m : Monitor β) (e : MonitorError) (w : σ) (effects : List Effect) :
    Records m (m.fail e w effects : Step σ β α).turn := rfl

theorem records_start (m : Monitor β) (w : σ) : Records m (m.start h w).turn := by
  by_cases hm : m.state = .created
  · cases ho : (h.openBackend w).backend with
    | ok b =>
        rw [start_of_ok hm ho]
        rfl
    | error e =>
        rw [start_of_error hm ho]
        rfl
  · rw [start_of_refused hm]
    exact records_fail m _ w _

theorem records_stop {m : Monitor β} (hc : m.Consistent) (w : σ) : Records m (m.stop h w).turn := by
  by_cases hm : m.state = .running
  · obtain ⟨b, hb⟩ := hc.exists_backend hm
    rw [stop_of_running hm hb]
    rfl
  · rw [stop_of_refused hm]
    exact records_fail m _ w _

/-- The source is given back before the error is recorded; that leaves the memory alone. -/
theorem records_process (m : Monitor β) (timeout : Wait) (w : σ) :
    Records m (m.process h timeout w).turn := by
  cases hb : m.backend with
  | none =>
      rw [process_of_none hb]
      exact records_fail m _ w _
  | some b =>
      cases ho : ((m.session b w).reaction h timeout).outcome with
      | ok outcome =>
          rw [process_of_ok hb ho]
          rfl
      | error e =>
          cases he : e.isFatal with
          | false =>
              rw [process_of_error hb ho he]
              rfl
          | true =>
              rw [process_of_fatal hb ho he]
              rfl

theorem records_round {m : Monitor β} {w : σ} {t : Turn σ β} (hp : Performs h m w .round t) :
    Records m t := by
  cases hp with
  | round hm hf ho =>
      have hcall := records_process (h := h) m (some m.slice) w
      rw [Records, Step.turn, ho] at hcall
      exact hcall

/-- The loop records the error of its last call, and nothing of the rounds before it. -/
theorem records_processBlocking {m : Monitor β} {w : σ} {fuel : Nat} {s : Step σ β Unit}
    (hs : m.processBlocking h fuel w = some s) : Records m s.turn := by
  by_cases hm : m.state = .running
  · have hrunning := isRunning_iff.mpr hm
    rw [processBlocking, if_pos hrunning] at hs
    refine slices_induction (P := fun m _ t => Records m t) ?_ ?_ ?_ fuel hrunning hs
    · intro m w _ _
      rfl
    · intro m w e _ _ _
      exact records_process m _ w
    · intro m w t t' _ hp ih
      have hok : t.error = none := by
        cases hp
        rfl
      exact (records_round hp).after hok ih
  · rw [processBlocking_of_refused fuel hm, Option.some.injEq] at hs
    rw [← hs]
    exact records_fail m _ w _

/-- Every operation records its error, if it fails, and else nothing. -/
theorem Performs.records {m : Monitor β} {w : σ} {op : Operation} {t : Turn σ β}
    (hp : Performs h m w op t) (hc : m.Consistent) : Records m t := by
  cases hp with
  | start => exact records_start m w
  | stop => exact records_stop hc w
  | process timeout => exact records_process m timeout w
  | processBlocking hs => exact records_processBlocking hs
  | round hm hf ho => exact records_round (.round hm hf ho)
  | withShutdown raised => rfl
  | withSlice slice => rfl
  | withBackoff backoff => rfl
  | trigger => rfl

/-- The error of the latest of the turns that failed. -/
def latestError? (turns : List (Operation × Turn σ β)) : Option MonitorError :=
  (turns.filterMap fun turn => turn.2.error).getLast?

theorem latestError?_append_singleton (turns : List (Operation × Turn σ β)) (op : Operation)
    (t : Turn σ β) : latestError? (turns ++ [(op, t)]) = t.error.or (latestError? turns) := by
  have hone : ([(op, t)].filterMap fun turn => turn.2.error) = t.error.toList := by
    cases ht : t.error with
    | none => exact List.filterMap_cons_none ht
    | some e => exact List.filterMap_cons_some ht
  rw [latestError?, List.filterMap_append, List.getLast?_append, hone, latestError?]
  cases t.error <;> rfl

theorem latestError?_eq_none_iff {turns : List (Operation × Turn σ β)} :
    latestError? turns = none ↔ ∀ turn ∈ turns, turn.2.error = none := by
  rw [latestError?, List.getLast?_eq_none_iff, List.filterMap_eq_nil_iff]

/-- What a monitor remembers is the latest failure of its life. -/
theorem Reaches.lastError_eq {turns : List (Operation × Turn σ β)} {m : Monitor β} {w : σ}
    (hr : Reaches h turns m w) : m.lastError = (latestError? turns).map LastError.ofError := by
  induction hr with
  | new w => rfl
  | meanwhile hr w' ih => exact ih
  | @perform turns m w op t hr hp ih =>
      have hrecords := hp.records hr.lives.1
      rw [hrecords, ih, latestError?_append_singleton]
      cases t.error <;> rfl

/-! ## Refused operations and openings that fail -/

/-- The error with which an operation is refused in a state of life, if it is. -/
def Operation.refusal? (op : Operation) (s : MonitorState) : Option MonitorError :=
  match op with
  | .start => if s = .created then none else some (.invalidState "start" s)
  | .stop | .process _ | .processBlocking => if s = .running then none else some .notRunning
  | .round | .withShutdown _ | .withSlice _ | .withBackoff _ | .trigger => none

/-- A refused operation does nothing but record why. -/
theorem Performs.eq_of_refusal {m : Monitor β} {w : σ} {op : Operation} {t : Turn σ β}
    {e : MonitorError} (hp : Performs h m w op t) (hc : m.Consistent)
    (hr : op.refusal? m.state = some e) : t = ⟨some e, m.failed e, w, []⟩ := by
  cases hp with
  | start =>
      obtain ⟨hm, ⟨⟩⟩ := Option.ite_none_left_eq_some.mp hr
      rw [start_of_refused hm]
      rfl
  | stop =>
      obtain ⟨hm, ⟨⟩⟩ := Option.ite_none_left_eq_some.mp hr
      rw [stop_of_refused hm]
      rfl
  | process timeout =>
      -- Here the source is looked at; outside running there is none.
      obtain ⟨hm, ⟨⟩⟩ := Option.ite_none_left_eq_some.mp hr
      have hb : m.backend = none := Option.not_isSome_iff_eq_none.mp (mt hc.mp hm)
      rw [process_of_none hb]
      rfl
  | processBlocking hs =>
      obtain ⟨hm, ⟨⟩⟩ := Option.ite_none_left_eq_some.mp hr
      rw [processBlocking_of_refused _ hm, Option.some.injEq] at hs
      rw [← hs]
      rfl
  | round hm hf ho => cases hr
  | withShutdown raised => cases hr
  | withSlice slice => cases hr
  | withBackoff backoff => cases hr
  | trigger => cases hr

theorem events_openingLog (o : Opening σ β) : Effect.events (openingLog o) = [] := by
  rw [Effect.events, List.filterMap_eq_nil_iff, openingLog]
  simp

/-- An opening that fails does nothing to the monitor but record why. -/
theorem Performs.of_opening_failed {m : Monitor β} {w : σ} {t : Turn σ β} {e : MonitorError}
    (hp : Performs h m w .start t) (hm : m.state = .created)
    (ho : (h.openBackend w).backend = .error e) :
    t.error = some e ∧ t.monitor = m.failed e ∧ Effect.events t.effects = [] := by
  cases hp
  rw [start_of_error hm ho]
  refine ⟨rfl, rfl, ?_⟩
  show Effect.events (openingLog (h.openBackend w) ++ _) = []
  rw [Effect.events_append, events_openingLog]
  rfl

/-- An operation that is not refused and opens nothing fails only while the monitor runs. -/
theorem Performs.opening_of_created {m : Monitor β} {w : σ} {op : Operation} {t : Turn σ β}
    {e : MonitorError} (hp : Performs h m w op t) (hr : op.refusal? m.state = none)
    (hm : m.state ≠ .running) (ht : t.error = some e) :
    op = .start ∧ m.state = .created ∧ (h.openBackend w).backend = .error e := by
  have hrefused : (if m.state = .running then none else some MonitorError.notRunning) ≠ none := by
    rw [if_neg hm]
    exact Option.some_ne_none _
  cases hp with
  | start =>
      have hcreated : m.state = .created := by
        by_contra hne
        rw [Operation.refusal?, if_neg hne] at hr
        cases hr
      refine ⟨rfl, hcreated, ?_⟩
      cases ho : (h.openBackend w).backend with
      | ok b =>
          rw [start_of_ok hcreated ho] at ht
          cases ht
      | error e' =>
          rw [start_of_error hcreated ho] at ht
          cases ht
          rfl
  | stop => exact absurd hr hrefused
  | process timeout => exact absurd hr hrefused
  | processBlocking hs => exact absurd hr hrefused
  | round hrunning hf ho => exact absurd (isRunning_iff.mp hrunning) hm
  | withShutdown raised => cases ht
  | withSlice slice => cases ht
  | withBackoff backoff => cases ht
  | trigger => cases ht

/-! ## Calls of the source that fail -/

/-- The turn of the running monitor `m` ended with a call of its source that failed: the call was
made in the session `s`, and the source is given back exactly if the error is fatal. -/
structure SourceFailed (h : Host σ β) (m : Monitor β) (s : Session σ β) (timeout : Wait)
    (e : MonitorError) (t : Turn σ β) : Prop where
  outcome : (s.reaction h timeout).outcome = .error e
  error : t.error = some e
  monitor : t.monitor =
    if e.isFatal then (m.resumed (s.next h timeout)).halted.failed e
    else (m.resumed (s.next h timeout)).failed e
  releases : Effect.releases t.effects = if e.isFatal then 1 else 0

/-- What occurs in a call gives nothing back. -/
theorem releases_effects (timeout : Wait) (s : Session σ β) :
    Effect.releases (s.effects h timeout) = 0 := by
  have hcounts := (MonitorState.counts_of_along (along_effects (h := h) timeout s)).2
  omega

theorem releases_roundEffects (m : Monitor β) (s : Session σ β) (outcome : Outcome) :
    Effect.releases (m.roundEffects h s outcome) = 0 := by
  have hpause := (MonitorState.counts_of_along (along_pauseAfter m outcome)).2
  have hcall := releases_effects (h := h) (some m.slice) s
  rw [roundEffects, Effect.releases_append]
  omega

theorem sourceFailed_process {m : Monitor β} {b : β} {w : σ} {timeout : Wait} {e : MonitorError}
    (hb : m.backend = some b) (ho : ((m.session b w).reaction h timeout).outcome = .error e) :
    SourceFailed h m (m.session b w) timeout e (m.process h timeout w).turn := by
  have hcall := releases_effects (h := h) timeout (m.session b w)
  cases he : e.isFatal with
  | false =>
      rw [process_of_error hb ho he]
      refine ⟨ho, rfl, ?_, ?_⟩
      · rw [he]
        rfl
      · rw [he]
        exact hcall
  | true =>
      rw [process_of_fatal hb ho he]
      refine ⟨ho, rfl, ?_, ?_⟩
      · rw [he]
        rfl
      · rw [he]
        show Effect.releases ((m.session b w).effects h timeout ++ _) = 1
        rw [Effect.releases_append, hcall]
        rfl

/-- A monitor with a source returns what its source comes to. -/
theorem result_process {m : Monitor β} {b : β} {w : σ} {timeout : Wait} (hb : m.backend = some b) :
    (m.process h timeout w).result = (h.process b timeout w).outcome := by
  cases ho : (h.process b timeout w).outcome with
  | ok outcome => rw [process_of_ok hb ho]
  | error e =>
      cases he : e.isFatal with
      | false => rw [process_of_error hb ho he]
      | true => rw [process_of_fatal hb ho he]

theorem error_process {m : Monitor β} {b : β} {w : σ} {timeout : Wait} (hb : m.backend = some b) :
    (m.process h timeout w).turn.error = errorOf (h.process b timeout w).outcome :=
  congrArg errorOf (result_process hb)

theorem sourceFailed_of_process {m : Monitor β} {b : β} {w : σ} {timeout : Wait} {e : MonitorError}
    (hb : m.backend = some b) (ht : (m.process h timeout w).turn.error = some e) :
    SourceFailed h m (m.session b w) timeout e (m.process h timeout w).turn := by
  rw [error_process hb] at ht
  exact sourceFailed_process hb (errorOf_eq_some_iff.mp ht)

/-- A loop that fails ends with a call that fails, some calls after the first. -/
theorem sourceFailed_processBlocking {m : Monitor β} {w : σ} {fuel : Nat} {s : Step σ β Unit}
    {b : β} {e : MonitorError} (hc : m.Consistent) (hb : m.backend = some b)
    (hs : m.processBlocking h fuel w = some s) (ht : s.turn.error = some e) :
    ∃ n, SourceFailed h m ((m.session b w).after h (some m.slice) n) (some m.slice) e s.turn := by
  have hrunning := isRunning_iff.mpr (hc.state_of_backend hb)
  rw [processBlocking, if_pos hrunning] at hs
  refine slices_induction (P := fun m w t => ∀ b, m.backend = some b → t.error = some e →
      ∃ n, SourceFailed h m ((m.session b w).after h (some m.slice) n) (some m.slice) e t)
    ?_ ?_ ?_ fuel hrunning hs b hb ht
  · intro m w _ _ b _ ht
    cases ht
  · intro m w _ _ _ _ b hb ht
    exact ⟨0, sourceFailed_of_process hb ht⟩
  · intro m w t t' _ hp ih b hb ht
    cases hp with
    | @round outcome hm hf ho =>
        obtain ⟨b', hb', hr⟩ := exists_backend_of_ok ho
        obtain rfl : b = b' := Option.some.inj (hb.symm.trans hb')
        rw [process_of_ok hb hr] at ih ⊢
        -- The later calls are made in the sessions after the one of this round.
        obtain ⟨n, hn⟩ := ih _ rfl ht
        refine ⟨n + 1, hn.outcome, hn.error, hn.monitor, ?_⟩
        have hround := releases_roundEffects (h := h) m (m.session b w) outcome
        show Effect.releases (m.roundEffects h (m.session b w) outcome ++ t'.effects) = _
        rw [Effect.releases_append, hround, Nat.zero_add]
        exact hn.releases

/-- A running monitor fails, in an operation that is not refused, only with a call of its source. -/
theorem Performs.sourceFailed {m : Monitor β} {w : σ} {op : Operation} {t : Turn σ β}
    {e : MonitorError} (hp : Performs h m w op t) (hc : m.Consistent) (hm : m.state = .running)
    (hr : op.refusal? m.state = none) (ht : t.error = some e) :
    ∃ b timeout n, m.backend = some b ∧
      SourceFailed h m ((m.session b w).after h timeout n) timeout e t := by
  obtain ⟨b, hb⟩ := hc.exists_backend hm
  cases hp with
  | start =>
      rw [hm] at hr
      cases hr
  | stop =>
      rw [stop_of_running hm hb] at ht
      cases ht
  | process timeout => exact ⟨b, timeout, 0, hb, sourceFailed_of_process hb ht⟩
  | processBlocking hs =>
      obtain ⟨n, hn⟩ := sourceFailed_processBlocking hc hb hs ht
      exact ⟨b, some m.slice, n, hb, hn⟩
  | round hm hf ho => cases ht
  | withShutdown raised => cases ht
  | withSlice slice => cases ht
  | withBackoff backoff => cases ht
  | trigger => cases ht

/-- After an error that is not fatal the source is as the call that failed left it. -/
theorem SourceFailed.backend {m : Monitor β} {s : Session σ β} {timeout : Wait} {e : MonitorError}
    {t : Turn σ β} (hf : SourceFailed h m s timeout e t) :
    t.monitor.backend = if e.isFatal then none else some (s.reaction h timeout).backend := by
  rw [hf.monitor]
  cases e.isFatal <;> rfl

theorem SourceFailed.state {m : Monitor β} {s : Session σ β} {timeout : Wait} {e : MonitorError}
    {t : Turn σ β} (hf : SourceFailed h m s timeout e t) :
    t.monitor.state = if e.isFatal then .stopped else m.state := by
  rw [hf.monitor]
  cases e.isFatal <;> rfl

/-! ## Where errors come from -/

theorem Operation.eq_of_refusal? {op : Operation} {s : MonitorState} {e : MonitorError}
    (hr : op.refusal? s = some e) : e = .notRunning ∨ ∃ s', e = .invalidState "start" s' := by
  cases op with
  | start =>
      obtain ⟨-, hinvalid⟩ := Option.ite_none_left_eq_some.mp hr
      exact .inr ⟨s, (Option.some.inj hinvalid).symm⟩
  | stop | process timeout | processBlocking =>
      obtain ⟨-, hnot⟩ := Option.ite_none_left_eq_some.mp hr
      exact .inl (Option.some.inj hnot).symm
  | round | withShutdown raised | withSlice slice | withBackoff backoff | trigger => cases hr

/-- An operation fails because it is refused, because the source does not open, or with a call of
the source. -/
theorem Performs.error_cases {m : Monitor β} {w : σ} {op : Operation} {t : Turn σ β}
    {e : MonitorError} (hp : Performs h m w op t) (hc : m.Consistent) (ht : t.error = some e) :
    op.refusal? m.state = some e ∨ (h.openBackend w).backend = .error e ∨
      ∃ b timeout w', (h.process b timeout w').outcome = .error e := by
  cases hr : op.refusal? m.state with
  | some e' =>
      rw [hp.eq_of_refusal hc hr] at ht
      exact .inl ht
  | none =>
      by_cases hm : m.state = .running
      · obtain ⟨b, timeout, n, -, hfailed⟩ := hp.sourceFailed hc hm hr ht
        exact .inr (.inr ⟨_, timeout, _, hfailed.outcome⟩)
      · exact .inr (.inl (hp.opening_of_created hr hm ht).2.2)

/-- What is so of the refusals and of every error of the source is so of every error of a life. -/
theorem Reaches.forall_error {P : MonitorError → Prop} {turns : List (Operation × Turn σ β)}
    {m : Monitor β} {w : σ} (hr : Reaches h turns m w) (notRunning : P .notRunning)
    (invalidState : ∀ s, P (.invalidState "start" s))
    (opening : ∀ w e, (h.openBackend w).backend = .error e → P e)
    (source : ∀ b timeout w e, (h.process b timeout w).outcome = .error e → P e) :
    ∀ turn ∈ turns, ∀ e, turn.2.error = some e → P e := by
  induction hr with
  | new w =>
      intro turn hturn
      cases hturn
  | meanwhile hr w' ih => exact ih
  | @perform turns m w op t hr hp ih =>
      intro turn hturn e he
      rcases List.mem_append.mp hturn with hold | hnew
      · exact ih turn hold e he
      · obtain rfl := List.mem_singleton.mp hnew
        rcases hp.error_cases hr.lives.1 he with hrefused | hopening | ⟨b, timeout, w', hsource⟩
        · rcases Operation.eq_of_refusal? hrefused with rfl | ⟨s, rfl⟩
          · exact notRunning
          · exact invalidState s
        · exact opening w e hopening
        · exact source b timeout w' e hsource

/-- If no error of a life has the code zero, the code of the last error is zero exactly if there was
none. -/
theorem Reaches.lastErrorCode_eq_zero_iff {turns : List (Operation × Turn σ β)} {m : Monitor β}
    {w : σ} (hr : Reaches h turns m w)
    (hcode : ∀ turn ∈ turns, ∀ e, turn.2.error = some e → e.code ≠ 0) :
    m.lastErrorCode = 0 ↔ ∀ turn ∈ turns, turn.2.error = none := by
  rw [lastErrorCode, hr.lastError_eq, ← latestError?_eq_none_iff]
  cases hl : latestError? turns with
  | none => exact iff_of_true rfl rfl
  | some e =>
      obtain ⟨turn, hturn, he⟩ := List.mem_filterMap.mp (List.mem_of_getLast? hl)
      exact iff_of_false (hcode turn hturn e he) (Option.some_ne_none e)

/-! ## Failures in a life -/

/-- **Failures.** A monitor that was reached remembers the code and the message of the latest
operation that failed, and nothing exactly if none did. Whatever is asked of it next: without a
failure it remembers what it did before; if it is refused or its source does not open, its memory is
all that changes and no event is delivered; a call fails exactly if the source does. A failure of
the source stops the monitor and gives the source back exactly if it is fatal; after another one
the monitor runs, and the next call asks the same source, as the one that failed left it. -/
theorem failures {turns : List (Operation × Turn σ β)} {m : Monitor β} {w : σ}
    (hr : Reaches h turns m w) :
    m.lastError = (latestError? turns).map (fun e => ⟨e.code, e.message⟩) ∧
    (m.lastError = none ↔ ∀ turn ∈ turns, turn.2.error = none) ∧
    ∀ op t, Performs h m w op t →
      (t.error = none → t.monitor.lastError = m.lastError) ∧
      (∀ e, op.refusal? m.state = some e → t = ⟨some e, m.failed e, w, []⟩) ∧
      (op = .start → m.state = .created → ∀ e, (h.openBackend w).backend = .error e →
        t.error = some e ∧ t.monitor = m.failed e ∧ Effect.events t.effects = []) ∧
      (∀ b timeout, m.backend = some b → op = .process timeout →
        t.error = errorOf (h.process b timeout w).outcome) ∧
      (op.refusal? m.state = none → m.state = .running → ∀ e, t.error = some e →
        (t.monitor.state = .stopped ↔ e.isFatal = true) ∧
        (t.monitor.backend = none ↔ e.isFatal = true) ∧
        Effect.releases t.effects = (if e.isFatal then 1 else 0) ∧
        (e.isFatal = false → t.monitor.state = .running ∧
          ∃ b timeout n, m.backend = some b ∧
            (((m.session b w).after h timeout n).reaction h timeout).outcome = .error e ∧
            ∀ timeout' t', Performs h t.monitor t.world (.process timeout') t' →
              Effect.timeouts t'.effects = [timeout'] ∧
              t'.error = errorOf (h.process
                (((m.session b w).after h timeout n).reaction h timeout).backend timeout'
                t.world).outcome)) := by
  obtain ⟨hc, -⟩ := hr.lives
  have hlast := hr.lastError_eq
  refine ⟨hlast, ?_, ?_⟩
  · rw [hlast, Option.map_eq_none_iff, latestError?_eq_none_iff]
  · intro op t hp
    refine ⟨?_, fun e he => hp.eq_of_refusal hc he, ?_, ?_, ?_⟩
    · intro hok
      rw [hp.records hc, hok]
      rfl
    · rintro rfl hm e ho
      exact hp.of_opening_failed hm ho
    · rintro b timeout hb rfl
      cases hp
      exact error_process hb
    · intro hrefusal hm e he
      obtain ⟨b, timeout, n, hb, hfailed⟩ := hp.sourceFailed hc hm hrefusal he
      have hstate := hfailed.state
      have hbackend := hfailed.backend
      cases hfatal : e.isFatal with
      | true =>
          rw [hfatal, if_pos rfl] at hstate hbackend
          have hreleases := hfailed.releases
          rw [hfatal] at hreleases
          refine ⟨iff_of_true hstate rfl, iff_of_true hbackend rfl, hreleases, fun hne => ?_⟩
          cases hne
      | false =>
          rw [hfatal, if_neg (by decide)] at hstate hbackend
          have hreleases := hfailed.releases
          rw [hfatal] at hreleases
          rw [hm] at hstate
          refine ⟨?_, ?_, hreleases, fun _ => ⟨hstate, b, timeout, n, hb, hfailed.outcome, ?_⟩⟩
          · rw [hstate]
            decide
          · rw [hbackend]
            exact iff_of_false (Option.some_ne_none _) Bool.false_ne_true
          · intro timeout' t' hnext
            cases hnext
            exact ⟨timeouts_process hbackend, error_process hbackend⟩

/-- A source that does not open at first and then fails twice, the second time for good. -/
theorem failures_of_protocol_then_disconnected :
    let w : Script × EventCounter :=
      (⟨[some .unsupported],
        [⟨false, [], .error (.protocol 13)⟩, ⟨false, [], .error .disconnected⟩]⟩, ⟨0, none⟩)
    let t₁ := ((Monitor.new Unit).stop Script.host w).turn
    let t₂ := (t₁.monitor.start Script.host t₁.world).turn
    let t₃ := (t₂.monitor.start Script.host t₂.world).turn
    let t₄ := (t₃.monitor.process Script.host none t₃.world).turn
    let t₅ := (t₄.monitor.process Script.host none t₄.world).turn
    t₁.error = some .notRunning ∧ t₂.error = some .unsupported ∧ t₃.error = none ∧
      t₄.monitor.state = .running ∧
      t₄.monitor.lastError = some ⟨13, MonitorError.message (.protocol 13)⟩ ∧
      t₅.error = some .disconnected ∧ t₅.monitor.state = .stopped ∧
      Effect.releases t₅.effects = 1 := by
  intro w t₁ t₂ t₃ t₄ t₅
  have hr : Reaches Script.host
      [(.stop, t₁), (.start, t₂), (.start, t₃), (.process none, t₄)] t₄.monitor t₄.world :=
    ((((Reaches.new w).perform .stop).perform .start).perform .start).perform (.process none)
  obtain ⟨hlast, -, hnext⟩ := failures hr
  -- The second call of the source fails for good, so the monitor stops.
  obtain ⟨-, -, -, -, hfailed⟩ := hnext (.process none) t₅ (.process none)
  obtain ⟨hstopped, -, hreleases, -⟩ := hfailed rfl rfl .disconnected rfl
  exact ⟨rfl, rfl, rfl, rfl, hlast, rfl, hstopped.mpr rfl, hreleases⟩

end AddressWatch.Monitor
