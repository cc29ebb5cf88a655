/-
  AddressWatch.Proofs.Program.Shutdown

  How a watch ends whose two sides take their steps in any order. What it returns is what its
  worker came to, with one exception: when no request to end can be noticed it returns at once,
  with the flag down and the worker at work, and nobody raises the flag after that
  (`watch_returns`). A raised flag ends the worker within two of its steps (`Worker.rest`). The
  watch of the program is one in which the sides take turns (`supervised_of_watchWith`).
-/

import Mathlib.Data.List.Induction
import AddressWatch.Supervision
import AddressWatch.Proofs.Program.Watch

namespace AddressWatch

/-! ## The worker -/

namespace Worker

variable {w w' : Worker} {raised : Bool} {step : Move}

/-- A worker that is over takes no more steps. -/
theorem result?_of_move (hm : w.move raised step = some w') : w.result? = none := by
  cases w with
  | starting | deciding | asking => rfl
  | ended result => cases hm
  | brokenDown cause => cases hm

/-- How many steps the worker has left once the flag is raised. -/
def rest : Worker → Nat
  | .starting | .asking => 2
  | .deciding => 1
  | .ended _ | .brokenDown _ => 0

theorem rest_le (w : Worker) : w.rest ≤ 2 := by
  rw [rest.eq_def]
  split
  all_goals omega

/-- A round that was begun is finished; no other one is begun. -/
theorem rest_of_move (hm : w.move true step = some w') : w'.rest < w.rest := by
  rw [move.eq_def] at hm
  split at hm
  all_goals cases hm
  · exact Nat.one_lt_two
  · exact Nat.two_pos
  · exact Nat.one_pos
  · exact Nat.one_lt_two
  · exact Nat.two_pos
  · exact Nat.two_pos
  · exact Nat.one_pos
  · exact Nat.two_pos

end Worker

namespace Supervision

variable {s s' : Supervision} {m : Move} {ms : List Move}

/-! ## What a move does -/

/-- The moves, with what each of them needs and changes. -/
inductive Step (s : Supervision) : Move → Supervision → Prop
  | work {step : Worker.Move} {worker : Worker} (hs : s.worker.move s.shutdown step = some worker) :
      Step s (.work step) { s with worker }
  | signal (hs : s.signal = .waiting) : Step s .signal { s with signal := .arrived }
  | installFailed (hs : s.signal = .waiting) (cause : SystemError) :
      Step s (.installFailed cause) { s with signal := .failed cause }
  | takeResult {result : Except RunError Unit}
      (hsup : s.supervisor = .selecting ∨ s.supervisor = .joining)
      (hs : s.worker.result? = some result) :
      Step s .takeResult { s with supervisor := .returned result }
  | stop (hsup : s.supervisor = .selecting) (hs : s.signal = .arrived) :
      Step s .takeSignal { s with supervisor := .joining, shutdown := true }
  | giveUp {cause : SystemError} (hsup : s.supervisor = .selecting)
      (hs : s.signal = .failed cause) :
      Step s .takeSignal { s with supervisor := .returned (.error (.signalHandler cause)) }

theorem step_of_move (hm : s.move m = some s') : Step s m s' := by
  cases m with
  | work step =>
      obtain ⟨worker, hs, rfl⟩ := Option.map_eq_some_iff.mp hm
      exact .work hs
  | signal =>
      rw [move] at hm
      split at hm
      · rename_i hs
        cases hm
        exact .signal hs
      · cases hm
  | installFailed cause =>
      rw [move] at hm
      split at hm
      · rename_i hs
        cases hm
        exact .installFailed hs cause
      · cases hm
  | takeResult =>
      rw [move] at hm
      split at hm
      · rename_i hsup
        obtain ⟨result, hs, rfl⟩ := Option.map_eq_some_iff.mp hm
        exact .takeResult (.inl hsup) hs
      · rename_i hsup
        obtain ⟨result, hs, rfl⟩ := Option.map_eq_some_iff.mp hm
        exact .takeResult (.inr hsup) hs
      · cases hm
  | takeSignal =>
      rw [move] at hm
      split at hm
      · rename_i hsup hs
        cases hm
        exact .stop hsup hs
      · rename_i cause hsup hs
        cases hm
        exact .giveUp hsup hs
      · cases hm

theorem moves_cons : s.moves (m :: ms) = (s.move m).bind fun s' => s'.moves ms := List.foldlM_cons

theorem moves_append (ms ms' : List Move) :
    s.moves (ms ++ ms') = (s.moves ms).bind fun s' => s'.moves ms' := List.foldlM_append

/-- Induction over moves, in the order in which they are made. -/
theorem moves_induction {P : List Move → Supervision → Prop} (nil : P [] s)
    (step : ∀ ms s₁ m s₂, P ms s₁ → Step s₁ m s₂ → P (ms ++ [m]) s₂) (hs : s.moves ms = some s') :
    P ms s' := by
  induction ms using List.reverseRecOn generalizing s' with
  | nil =>
      cases hs
      exact nil
  | append_singleton ms m ih =>
      rw [moves_append] at hs
      obtain ⟨s₁, hs₁, hm⟩ := Option.bind_eq_some_iff.mp hs
      obtain ⟨s₂, hs₂, hlast⟩ := Option.bind_eq_some_iff.mp (moves_cons ▸ hm)
      cases hlast
      exact step ms s₁ m _ (ih hs₁) (step_of_move hs₂)

/-! ## Watches that have returned -/

/-- Where the result of a watch comes from: from its worker, which is over, or from a wait for a
request to end that failed after the moves listed, while the flag was down. -/
def Explains (ms : List Move) (s : Supervision) (result : Except RunError Unit) : Prop :=
  s.worker.result? = some result ∨
    ∃ cause, .installFailed cause ∈ ms ∧ result = .error (.signalHandler cause) ∧
      s.shutdown = false

/-- A move that raises no flag and does not touch a worker that is over leaves it explained. -/
theorem Explains.after {result : Except RunError Unit} (hs : Explains ms s result)
    (hworker : s.worker.result? = some result → s'.worker.result? = some result)
    (hflag : s'.shutdown = s.shutdown) : Explains (ms ++ [m]) s' result := by
  rcases hs with hover | ⟨cause, hmem, hresult, hdown⟩
  · exact .inl (hworker hover)
  · exact .inr ⟨cause, List.mem_append_left _ hmem, hresult, hflag.trans hdown⟩

/-- What holds of a watch after any moves. -/
structure Sound (ms : List Move) (s : Supervision) : Prop where
  failed : ∀ cause, s.signal = .failed cause → .installFailed cause ∈ ms
  selecting : s.supervisor = .selecting → s.shutdown = false
  returned : ∀ result, s.supervisor = .returned result → Explains ms s result

theorem sound_start : Sound [] start where
  failed := fun _ hs => by cases hs
  selecting := fun _ => rfl
  returned := fun _ hs => by cases hs

theorem Sound.step (hs : Sound ms s) (hm : Step s m s') : Sound (ms ++ [m]) s' := by
  have hfailed : ∀ cause, s.signal = .failed cause → .installFailed cause ∈ ms ++ [m] :=
    fun cause hf => List.mem_append_left _ (hs.failed cause hf)
  cases hm with
  | work hwork =>
      refine ⟨hfailed, hs.selecting, fun result hr => (hs.returned result hr).after ?_ rfl⟩
      -- A worker that has a result takes no step.
      rw [Worker.result?_of_move hwork]
      intro hover
      cases hover
  | signal hwaiting =>
      refine ⟨fun cause hf => ?_, hs.selecting,
        fun result hr => (hs.returned result hr).after id rfl⟩
      cases hf
  | installFailed hwaiting cause =>
      refine ⟨fun cause' hf => ?_, hs.selecting,
        fun result hr => (hs.returned result hr).after id rfl⟩
      cases hf
      exact List.mem_append_right _ (List.mem_singleton_self _)
  | takeResult hsup hover =>
      refine ⟨hfailed, fun hsel => ?_, fun result hr => ?_⟩
      · cases hsel
      · cases hr
        exact .inl hover
  | stop hsup harrived =>
      refine ⟨hfailed, fun hsel => ?_, fun result hr => ?_⟩
      · cases hsel
      · cases hr
  | giveUp hsup hcause =>
      refine ⟨hfailed, fun hsel => ?_, fun result hr => ?_⟩
      · cases hsel
      · cases hr
        exact .inr ⟨_, hfailed _ hcause, rfl, hs.selecting hsup⟩

theorem sound_of_moves (hs : start.moves ms = some s) : Sound ms s :=
  moves_induction sound_start (fun _ _ _ _ hsound hm => hsound.step hm) hs

/-- After the return nothing moves but the worker and the wait for a request to end: the result
stays, and so does the flag. -/
theorem moves_of_returned {result : Except RunError Unit} (hr : s.supervisor = .returned result)
    (hs : s.moves ms = some s') :
    s'.supervisor = .returned result ∧ s'.shutdown = s.shutdown := by
  refine moves_induction (P := fun _ t => t.supervisor = .returned result ∧ t.shutdown = s.shutdown)
    ⟨hr, rfl⟩ (fun ms s₁ m s₂ hbefore hm => ?_) hs
  obtain ⟨hreturned, hflag⟩ := hbefore
  cases hm with
  | work hwork => exact ⟨hreturned, hflag⟩
  | signal hwaiting => exact ⟨hreturned, hflag⟩
  | installFailed hwaiting cause => exact ⟨hreturned, hflag⟩
  | takeResult hsup hover =>
      rw [hreturned] at hsup
      rcases hsup with hsup | hsup <;> cases hsup
  | stop hsup harrived =>
      rw [hreturned] at hsup
      cases hsup
  | giveUp hsup hcause =>
      rw [hreturned] at hsup
      cases hsup

/-- How many of the moves are steps of the worker. -/
def steps (ms : List Move) : Nat :=
  ms.countP fun m => match m with | .work _ => true | _ => false

/-- Behind a raised flag the worker has only so many steps left. -/
theorem steps_of_raised (hraised : s.shutdown = true) (hs : s.moves ms = some s') :
    steps ms + s'.worker.rest ≤ s.worker.rest := by
  have hrun : s'.shutdown = true ∧ steps ms + s'.worker.rest ≤ s.worker.rest := by
    refine moves_induction
      (P := fun ms t => t.shutdown = true ∧ steps ms + t.worker.rest ≤ s.worker.rest)
      ⟨hraised, Nat.le_of_eq (Nat.zero_add _)⟩ (fun ms s₁ m s₂ hbefore hm => ?_) hs
    obtain ⟨hflag, hleft⟩ := hbefore
    rw [steps, List.countP_append]
    cases hm with
    | @work step worker hwork =>
        rw [hflag] at hwork
        have hless := Worker.rest_of_move hwork
        refine ⟨hflag, ?_⟩
        show steps ms + 1 + worker.rest ≤ _
        omega
    | signal hwaiting => exact ⟨hflag, hleft⟩
    | installFailed hwaiting cause => exact ⟨hflag, hleft⟩
    | takeResult hsup hover => exact ⟨hflag, hleft⟩
    | stop hsup harrived => exact ⟨rfl, hleft⟩
    | giveUp hsup hcause => exact ⟨hflag, hleft⟩
  exact hrun.2

/-- While the flag is down the rounds can go on, any number of them. -/
theorem exists_rounds (hw : s.worker = .deciding) (hdown : s.shutdown = false) (n : Nat) :
    ∃ ms, s.moves ms = some s ∧ steps ms = 2 * n := by
  induction n with
  | zero => exact ⟨[], rfl, rfl⟩
  | succ n ih =>
      obtain ⟨ms, hms, hsteps⟩ := ih
      refine ⟨.work .asks :: .work (.answered (.ok .timedOut)) :: ms, ?_, ?_⟩
      · obtain ⟨worker, signal, supervisor, shutdown⟩ := s
        obtain rfl : worker = .deciding := hw
        obtain rfl : shutdown = false := hdown
        exact hms
      · rw [steps, List.countP_cons_of_pos rfl, List.countP_cons_of_pos rfl, ← steps, hsteps]
        omega

/-! ## The watch of the program -/

/-- A watch between two rounds: the request to end, once it has come, has been passed on. -/
def between (raised : Bool) : Supervision :=
  if raised then ⟨.deciding, .arrived, .joining, true⟩
  else ⟨.deciding, .waiting, .selecting, false⟩

/-- Some moves lead to the given result, and the wait for a request to end can be set up in them. -/
def Returns (s : Supervision) (result : Except RunError Unit) : Prop :=
  ∃ ms s', s.moves ms = some s' ∧ s'.supervisor = .returned result ∧
    ∀ cause, .installFailed cause ∉ ms

theorem Returns.after {result : Except RunError Unit} (hr : Returns s' result)
    (hs : s.moves ms = some s') (hms : ∀ cause, .installFailed cause ∉ ms) : Returns s result := by
  obtain ⟨ms', s'', hs'', hresult, hms'⟩ := hr
  refine ⟨ms ++ ms', s'', ?_, hresult, fun cause hmem => ?_⟩
  · rw [moves_append, hs]
    exact hs''
  · rcases List.mem_append.mp hmem with hmem | hmem
    · exact hms cause hmem
    · exact hms' cause hmem

/-- What the supervisor makes of the error of a worker, if there is one. -/
def resultOf (error : Option MonitorError) : Except RunError Unit :=
  match error with
  | none => .ok ()
  | some e => .error (.monitor e)

theorem resultOf_errorOf (result : Except MonitorError Unit) :
    resultOf (Monitor.errorOf result) = result.mapError .monitor := by
  cases result <;> rfl

/-- The rounds of a blocking loop are those of a worker whose supervisor passes a request to end on
while a round is under way. -/
theorem returns_of_slices {σ β : Type} {h : Host σ β} {fuel : Nat} {m : Monitor β} {w : σ}
    {t : Monitor.Step σ β Unit} (hm : m.isRunning = true)
    (ht : Monitor.slices h fuel m w = some t) :
    Returns (between m.shutdown) (resultOf (Monitor.errorOf t.result)) := by
  refine Monitor.slices_induction
    (P := fun m _ t => Returns (between m.shutdown) (resultOf t.error)) ?_ ?_ ?_ fuel hm ht
  · intro m w _ hf
    rw [hf]
    exact ⟨[.work .sees, .takeResult], _, rfl, rfl, by simp⟩
  · intro m w e _ hf ho
    rw [hf, Monitor.Step.turn, ho]
    exact ⟨[.work .asks, .work (.answered (.error e)), .takeResult], _, rfl, rfl, by simp⟩
  · intro m w t t' _ hp ih
    cases hp with
    | @round outcome _ hf ho =>
        rw [hf]
        -- Whether the flag is raised behind the round says whether a request came during it.
        generalize (m.process h (some m.slice) w).monitor.shutdown = raised at ih
        cases raised with
        | false =>
            have hround : (between false).moves [.work .asks, .work (.answered (.ok outcome))] =
                some (between false) := rfl
            exact ih.after hround (by simp)
        | true =>
            have hround : (between false).moves
                [.work .asks, .signal, .takeSignal, .work (.answered (.ok outcome))] =
                some (between true) := rfl
            exact ih.after hround (by simp)

/-- The watch of the program returns what a watch does whose sides take turns. -/
theorem supervised_of_watchWith {σ β : Type} {c : Config} {h : Host σ β} {fuel : Nat} {w : σ}
    {r : Program.Watched σ} (hr : Program.watchWith c h fuel w = some r) :
    Returns start r.completion.result := by
  rw [Program.watchWith, ← Program.watcher] at hr
  have hcreated : (Program.watcher (β := β) c).state = .created := rfl
  cases ho : (h.openBackend w).backend with
  | error e =>
      simp only [Monitor.start_of_error hcreated ho] at hr
      cases hr
      exact ⟨[.work (.opened (.error e)), .takeResult], _, rfl, rfl, by simp⟩
  | ok b =>
      simp only [Monitor.start_of_ok hcreated ho] at hr
      obtain ⟨t, ht, rfl⟩ := Option.map_eq_some_iff.mp hr
      have hrunning : ((Program.watcher c).started b).isRunning = true := rfl
      rw [Monitor.processBlocking, if_pos hrunning] at ht
      have hloop := returns_of_slices hrunning ht
      rw [resultOf_errorOf] at hloop
      have hopened : start.moves [.work (.opened (.ok ()))] = some (between false) := rfl
      exact hloop.after hopened (by simp)

/-- **The return of a watch.** However its two sides took their steps: if its wait for a request to
end could be set up, a watch that has returned has returned what its worker came to, and the worker
is over. If it could not, the watch may have returned that failure with the flag down; the flag then
stays down, and a worker that goes through its rounds can do so for ever. A raised flag leaves the
worker two steps at most. -/
theorem watch_returns (hs : start.moves ms = some s) :
    (∀ result, s.supervisor = .returned result →
      (∀ cause, .installFailed cause ∉ ms) → s.worker.result? = some result) ∧
    (∀ result, s.supervisor = .returned result → s.worker.result? = some result ∨
      ∃ cause, .installFailed cause ∈ ms ∧ result = .error (.signalHandler cause) ∧
        ∀ ms' s', s.moves ms' = some s' → s'.shutdown = false) ∧
    (s.shutdown = false → s.worker = .deciding →
      ∀ n, ∃ ms', s.moves ms' = some s ∧ steps ms' = 2 * n) ∧
    (s.shutdown = true → ∀ ms' s', s.moves ms' = some s' → steps ms' ≤ 2) := by
  have hsound := sound_of_moves hs
  refine ⟨fun result hr hnone => ?_, fun result hr => ?_, fun hdown hw => exists_rounds hw hdown,
    fun hraised ms' s' hs' => ?_⟩
  · rcases hsound.returned result hr with hover | ⟨cause, hmem, -⟩
    · exact hover
    · exact absurd hmem (hnone cause)
  · rcases hsound.returned result hr with hover | ⟨cause, hmem, hresult, hdown⟩
    · exact .inl hover
    · refine .inr ⟨cause, hmem, hresult, fun ms' s' hs' => ?_⟩
      rw [(moves_of_returned hr hs').2, hdown]
  · have hleft := steps_of_raised hraised hs'
    have hrest := s.worker.rest_le
    omega

/-- A request to end comes while the source is asked, which then fails: that failure is what the
watch returns. -/
theorem watch_returns_of_signal_and_failure :
    let ms : List Move :=
      [.work (.opened (.ok ())), .work .asks, .signal, .takeSignal,
        .work (.answered (.error .disconnected)), .takeResult]
    ∃ s, start.moves ms = some s ∧ s.supervisor = .returned (.error (.monitor .disconnected)) ∧
      s.worker.result? = some (.error (.monitor .disconnected)) := by
  intro ms
  let result : Except RunError Unit := .error (.monitor .disconnected)
  have hs : start.moves ms =
      some ⟨.ended (.error .disconnected), .arrived, .returned result, true⟩ := rfl
  refine ⟨_, hs, rfl, (watch_returns hs).1 _ rfl fun cause hmem => ?_⟩
  simp [ms] at hmem

/-- The handler for requests to end cannot be installed: the watch returns while its worker goes
through its rounds, the flag is down and stays down. -/
theorem not_stopped_of_installFailed :
    ∃ s, start.moves [.work (.opened (.ok ())), .installFailed (.errno 24), .takeSignal] = some s ∧
      s.supervisor = .returned (.error (.signalHandler (.errno 24))) ∧
      s.worker.result? = none ∧ s.shutdown = false :=
  ⟨_, rfl, rfl, rfl, rfl⟩

end Supervision

end AddressWatch
