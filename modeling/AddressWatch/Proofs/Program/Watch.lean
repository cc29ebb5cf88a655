/-
  AddressWatch.Proofs.Program.Watch

  What a watch prints and how it ends. The loop goes through the answers to its waits up to the
  first one that concludes the watch: the process is asked to end, or the call fails. It prints one
  line for each event of theirs whose interface is selected (`slices_host`), and so does the program
  (`run_watch`).
-/

import Mathlib.Data.List.TakeWhile
import AddressWatch.Program
import AddressWatch.Proofs.Config.Resolve
import AddressWatch.Proofs.Linux.Delivery
import AddressWatch.Proofs.Linux.Opening

namespace AddressWatch

/-! ## The events of a watch -/

namespace Linux

open Route (Notice Frame readDatagram frames OtherMessages)

variable [OtherMessages]

/-- Whether a watch ends with the answer: the process is asked to end, or the call fails. -/
def PollAnswer.concludes (a : PollAnswer) : Bool := a.isSignal || a.error?.isSome

/-- The notices of what is read after the answer, up to the first error message. -/
def PollAnswer.noticesBeforeError (a : PollAnswer) : List Notice :=
  ((frames 0 a.datagram).takeWhile (·.payload.error?.isNone)).filterMap Frame.notice?

/-- Nothing is reported from behind an error message. -/
theorem PollAnswer.noticesBeforeError_eq (a : PollAnswer) :
    a.noticesBeforeError = (readDatagram a.datagram).notices := by
  cases he : (readDatagram a.datagram).error with
  | none =>
      rw [readDatagram, Route.error_walk, List.findSome?_eq_none_iff] at he
      have hall : ∀ f ∈ frames 0 a.datagram, f.payload.error?.isNone = true := by
        intro f hf
        rw [he f hf]
        rfl
      rw [noticesBeforeError, List.takeWhile_eq_self_iff.mpr hall, readDatagram, Route.notices_walk]
  | some errno =>
      obtain ⟨before, stop, code, hframes, hcode, -⟩ := Route.frames_of_error he
      have hbefore : ∀ f ∈ before, f.payload.error?.isNone = true := by
        intro f hf
        rw [Route.error?_of_mem_before ⟨0, rfl⟩ hframes hf]
        rfl
      have hlast : (Route.Payload.error code).error?.isNone = false := by
        rw [Route.Payload.error?, if_neg hcode]
        rfl
      rw [Route.notices_of_error hframes, noticesBeforeError, hframes,
        List.takeWhile_append_of_pos hbefore, List.takeWhile_cons_of_neg, List.append_nil]
      rw [hlast]
      exact Bool.false_ne_true

namespace Kernel

variable {k k' : Kernel} {a : PollAnswer} {rest : List PollAnswer}

/-- The events of a watch: those of the datagrams before the answer that concludes it, and those of
the messages before the error message, if that answer is a datagram with one. -/
def watched (k : Kernel) : List ChangeEvent :=
  (k.polls.takeWhile (!·.concludes)).flatMap k.reported ++
    (k.polls.find? (·.concludes)).toList.flatMap fun a => a.noticesBeforeError.filterMap k.event?

/-- Whether the watch is concluded because the process is asked to end. -/
def endsBySignal (k : Kernel) : Bool := (k.polls.find? (·.concludes)).any (·.isSignal)

/-- The events depend on the answers and on the names of the interfaces alone. -/
theorem watched_congr (hp : k'.polls = k.polls) (hn : k'.interfaceNames = k.interfaceNames) :
    k'.watched = k.watched := by
  rw [watched, watched, hp, Subscription.event?_congr hn, reported_congr hn]

theorem watched_of_nil (hp : k.polls = []) : k.watched = [] := by
  rw [watched, hp]
  rfl

theorem watched_of_concludes (hp : k.polls = a :: rest) (ha : a.concludes = true) :
    k.watched = k.reported a := by
  have hgoes : ¬ (!a.concludes) = true := by simp [ha]
  rw [watched, hp, List.takeWhile_cons, if_neg hgoes, List.find?_cons_of_pos ha, Option.toList_some,
    List.flatMap_nil, List.nil_append, List.flatMap_singleton, a.noticesBeforeError_eq, reported]

theorem watched_of_not_concludes (hp : k.polls = a :: rest) (ha : a.concludes = false)
    (hp' : k'.polls = rest) (hn : k'.interfaceNames = k.interfaceNames) :
    k.watched = k.reported a ++ k'.watched := by
  have hgoes : (!a.concludes) = true := by simp [ha]
  have hstays : ¬ a.concludes = true := by simp [ha]
  rw [watched, watched, hp, hp', Subscription.event?_congr hn, reported_congr hn,
    List.takeWhile_cons, if_pos hgoes, List.find?_cons_of_neg hstays, List.flatMap_cons,
    List.append_assoc]

theorem endsBySignal_of_concludes (hp : k.polls = a :: rest) (ha : a.concludes = true) :
    k.endsBySignal = a.isSignal := by
  rw [endsBySignal, hp, List.find?_cons_of_pos ha]
  rfl

theorem endsBySignal_of_not_concludes (hp : k.polls = a :: rest) (ha : a.concludes = false)
    (hp' : k'.polls = rest) : k.endsBySignal = k'.endsBySignal := by
  have hstays : ¬ a.concludes = true := by simp [ha]
  rw [endsBySignal, endsBySignal, hp, hp', List.find?_cons_of_neg hstays]

end Kernel

/-- The plan behind the first answer, after the call that takes it. -/
theorem Subscription.plan_of_cons {k : Kernel} {a : PollAnswer} {rest : List PollAnswer}
    (s : Subscription) (timeout : Wait) (hs : k.signalled = false) (hp : k.polls = a :: rest) :
    (s.process timeout k).world.polls = rest ∧
      (s.process timeout k).world.signalled = a.isSignal ∧
      (s.process timeout k).world.interfaceNames = k.interfaceNames := by
  obtain ⟨arrived, hkernel⟩ := (serves_process s timeout k).kernel
  rw [hkernel, Kernel.poll_of_cons _ hs hp]
  exact ⟨rfl, rfl, rfl⟩

end Linux

namespace Program

open Linux (Kernel Subscription PollAnswer)
open Monitor (errorOf openingLog loopEnd)
open Route (OtherMessages)

variable (c : Config)

/-! ## What is printed -/

/-- Whether the configuration selects the interface of an event. -/
def selects (event : ChangeEvent) : Bool := c.filter.acceptsName event.interface

/-- The lines that are printed for events. -/
def linesOf (events : List ChangeEvent) : List String :=
  (events.filter (selects c)).map (renderEvent c.json)

theorem linesOf_append (xs ys : List ChangeEvent) :
    linesOf c (xs ++ ys) = linesOf c xs ++ linesOf c ys := by
  rw [linesOf, List.filter_append, List.map_append, linesOf, linesOf]

theorem printed_append (xs ys : List Effect) :
    Effect.printed (xs ++ ys) = Effect.printed xs ++ Effect.printed ys :=
  List.filterMap_append

/-- A delivered event is printed exactly if it is selected. -/
theorem printed_receive (event : ChangeEvent) :
    Effect.printed [.performed (receive c event)] = linesOf c [event] := by
  rw [receive, linesOf]
  cases hs : selects c event with
  | true =>
      have hs' : c.filter.acceptsName event.interface = true := hs
      rw [if_pos hs', List.filter_cons_of_pos hs]
      rfl
  | false =>
      have hs' : ¬ c.filter.acceptsName event.interface = true := by
        intro h
        rw [selects, h] at hs
        cases hs
      rw [if_neg hs', List.filter_cons_of_neg (by rw [hs]; exact Bool.false_ne_true)]
      rfl

/-- What can occur in a call of the subscription. -/
def Occurs (o : Occurrence) : Prop :=
  (∃ event, o = .change event) ∨ (∃ line, o = .action (.log line)) ∨ o = .signal

section Round

variable [OtherMessages]

/-- Of what occurs in a call, the selected changes are printed. -/
theorem printed_relay {os : List Occurrence} (hos : ∀ o ∈ os, Occurs o) (raised : Bool)
    (w : Kernel × Unit) :
    Effect.printed (Monitor.relay (host c) raised w os).2.2 =
      linesOf c (os.filterMap Occurrence.change?) := by
  induction os generalizing raised w with
  | nil => rfl
  | cons o rest ih =>
      obtain ⟨ho, hrest⟩ := List.forall_mem_cons.mp hos
      rcases ho with ⟨event, rfl⟩ | ⟨line, rfl⟩ | rfl
      · -- The log line and the delivery print nothing, and the receiver prints what is selected.
        show Effect.printed ([.performed (receive c event)] ++ _) =
          linesOf c ([event] ++ rest.filterMap Occurrence.change?)
        rw [printed_append, printed_receive, linesOf_append]
        exact congrArg _ (ih hrest _ _)
      · exact ih hrest _ _
      · exact ih hrest _ _

/-- The flag is raised in a call exactly if the process is asked to end. -/
theorem triggered_eq {os : List Occurrence} (hos : ∀ o ∈ os, Occurs o) (w : Kernel × Unit) :
    (host c).triggered w os = true ↔ .signal ∈ os := by
  induction os generalizing w with
  | nil => exact iff_of_false Bool.false_ne_true List.not_mem_nil
  | cons o rest ih =>
      obtain ⟨ho, hrest⟩ := List.forall_mem_cons.mp hos
      rw [Host.triggered, Bool.or_eq_true, ih hrest, List.mem_cons]
      rcases ho with ⟨event, rfl⟩ | ⟨line, rfl⟩ | rfl
      · have hreceived : [receive c event].contains .shutdown = false := by
          rw [receive]
          split <;> rfl
        simp only [reduceCtorEq, false_or]
        show [receive c event].contains .shutdown = true ∨ _ ↔ _
        rw [hreceived]
        simp
      · simp [Host.actions]
      · exact iff_of_true (.inl rfl) (.inl rfl)

theorem occurs_process (s : Subscription) (timeout : Wait) (k : Kernel) :
    ∀ o ∈ (s.process timeout k).occurrences, Occurs o := by
  intro o ho
  rcases (Subscription.serves_process s timeout k).occurs o ho with hchange | hlog | ⟨hsignal, -⟩
  · exact .inl hchange
  · exact .inr (.inl hlog)
  · exact .inr (.inr hsignal)

variable (m : Monitor Subscription) (s : Subscription) (timeout : Wait) (k : Kernel) (r : Unit)

/-- A call prints a line for each selected event of its answer. -/
theorem printed_effects :
    Effect.printed ((m.session s (k, r)).effects (host c) timeout) =
      linesOf c (k.reported (k.answerAt 0)) := by
  show Effect.printed (Monitor.relay (host c) _ _ (s.process timeout k).occurrences).2.2 = _
  rw [printed_relay c (occurs_process s timeout k),
    ← (Subscription.serves_process s timeout k).events]
  rfl

/-- What is done behind the call prints nothing. -/
theorem printed_process (hb : m.backend = some s) :
    Effect.printed (m.process (host c) timeout (k, r)).effects =
      linesOf c (k.reported (k.answerAt 0)) := by
  have hbehind : Effect.printed
      (Monitor.aftermath ((host c).process s timeout (k, r)).outcome) = [] := by
    cases ((host c).process s timeout (k, r)).outcome with
    | ok outcome => rfl
    | error e =>
        rw [Monitor.aftermath]
        split <;> rfl
  rw [Monitor.effects_process hb, printed_append, printed_effects, hbehind, List.append_nil]

theorem printed_roundEffects (outcome : Outcome) :
    Effect.printed (m.roundEffects (host c) (m.session s (k, r)) outcome) =
      linesOf c (k.reported (k.answerAt 0)) := by
  have hpause : Effect.printed (m.pauseAfter outcome) = [] := by
    cases outcome <;> rfl
  rw [Monitor.roundEffects, printed_append, printed_effects, hpause, List.append_nil]

/-- A signal, and nothing else, raises the flag. -/
theorem raised_next (hf : m.shutdown = false) :
    ((m.session s (k, r)).next (host c) timeout).raised = (k.answerAt 0).isSignal := by
  have hserves := Subscription.serves_process s timeout k
  have htriggered := triggered_eq c (occurs_process s timeout k) ((s.process timeout k).world, r)
  show (m.shutdown || (host c).triggered ((s.process timeout k).world, r)
    (s.process timeout k).occurrences) = _
  rw [hf, Bool.false_or, Bool.eq_iff_iff, htriggered]
  constructor
  · intro hsignal
    rcases hserves.occurs _ hsignal with ⟨_, ⟨⟩⟩ | ⟨_, ⟨⟩⟩ | ⟨-, ha⟩
    exact ha
  · exact hserves.signal

end Round

/-! ## The loop -/

section Loop

variable [OtherMessages] {m : Monitor Subscription} {s : Subscription} {k : Kernel} {r : Unit}

/-- An answer that fails a call does not ask the process to end. -/
theorem isSignal_of_error? {a : PollAnswer} {e : MonitorError} (he : a.error? = some e) :
    a.isSignal = false := by
  cases a <;> first | rfl | cases he

/-- The loop ends with a call that fails. -/
theorem slices_of_error? {e : MonitorError} (fuel : Nat) (hm : m.isRunning = true)
    (hf : m.shutdown = false) (hb : m.backend = some s) (he : (k.answerAt 0).error? = some e) :
    ∃ t, Monitor.slices (host c) (fuel + 1) m (k, r) = some t ∧
      Effect.printed t.effects = linesOf c (k.reported (k.answerAt 0)) ∧
      errorOf t.result = some e := by
  rw [← (Subscription.serves_process s (some m.slice) k).error] at he
  have hresult : (m.process (host c) (some m.slice) (k, r)).result = .error e :=
    (Monitor.result_process hb).trans (Monitor.errorOf_eq_some_iff.mp he)
  exact ⟨_, Monitor.slices_of_error fuel hm hf hresult, printed_process c m s _ k r hb, rfl⟩

/-- The loop goes on after any other call, with the flag as the answer says. -/
theorem slices_of_no_error (fuel : Nat) (hm : m.isRunning = true) (hf : m.shutdown = false)
    (hb : m.backend = some s) (he : (k.answerAt 0).error? = none) :
    ∃ effects m' s' w', Monitor.slices (host c) (fuel + 1) m (k, r) =
        (Monitor.slices (host c) fuel m' w').map (·.after effects) ∧
      Effect.printed effects = linesOf c (k.reported (k.answerAt 0)) ∧
      m'.isRunning = true ∧ m'.shutdown = (k.answerAt 0).isSignal ∧ m'.backend = some s' ∧
      w'.1 = (s.process (some m.slice) k).world := by
  rw [← (Subscription.serves_process s (some m.slice) k).error] at he
  obtain ⟨outcome, ho⟩ := Monitor.errorOf_eq_none_iff.mp he
  have hreaction : ((m.session s (k, r)).reaction (host c) (some m.slice)).outcome =
      .ok outcome := ho
  exact ⟨_, _, _, _, Monitor.slices_of_ok fuel hm hf hb hreaction,
    printed_roundEffects c m s k r outcome, hm, raised_next c m s _ k r hf, rfl,
    Subscription.fst_foldl_worldAfter _ _ _⟩

/-- The loop prints what the answers up to the first one that concludes the watch say, and succeeds
exactly if that one asks the process to end. Without such an answer the plan ends, and the wait
after it fails. -/
theorem slices_host {polls : List PollAnswer} (hp : k.polls = polls) (hs : k.signalled = false)
    (hm : m.isRunning = true) (hf : m.shutdown = false) (hb : m.backend = some s) {fuel : Nat}
    (hfuel : polls.length + 2 ≤ fuel) :
    ∃ t, Monitor.slices (host c) fuel m (k, r) = some t ∧
      Effect.printed t.effects = linesOf c k.watched ∧
      (errorOf t.result = none ↔ k.endsBySignal = true) := by
  -- On the plan of the answers, of which each round uses up one.
  induction polls generalizing m s k r fuel with
  | nil =>
      obtain ⟨fuel, rfl⟩ : ∃ n, fuel = n + 1 := ⟨fuel - 1, by omega⟩
      have hanswer := Kernel.answerAt_of_nil hs hp 0
      have he : (k.answerAt 0).error? =
          some (Subscription.failure "poll" Kernel.badDescriptor) := by
        rw [hanswer]
        rfl
      have hnothing : k.reported (k.answerAt 0) = [] := by
        rw [hanswer]
        exact k.reported_of_nothing rfl
      obtain ⟨t, ht, hprinted, herror⟩ := slices_of_error? c (r := r) fuel hm hf hb he
      refine ⟨t, ht, ?_, ?_⟩
      · rw [hprinted, hnothing, Kernel.watched_of_nil hp]
      · rw [herror, Kernel.endsBySignal, hp]
        exact iff_of_false (Option.some_ne_none _) Bool.false_ne_true
  | cons a rest ih =>
      rw [List.length_cons] at hfuel
      obtain ⟨fuel, rfl⟩ : ∃ n, fuel = n + 2 := ⟨fuel - 2, by omega⟩
      obtain rfl : k.answerAt 0 = a := by
        rw [Kernel.answerAt, hs, hp]
        rfl
      cases he : (k.answerAt 0).error? with
      | some e =>
          have hconcludes : (k.answerAt 0).concludes = true := by
            rw [PollAnswer.concludes, he]
            exact Bool.or_true _
          obtain ⟨t, ht, hprinted, herror⟩ := slices_of_error? c (r := r) (fuel + 1) hm hf hb he
          refine ⟨t, ht, ?_, ?_⟩
          · rw [hprinted, Kernel.watched_of_concludes hp hconcludes]
          · rw [herror, Kernel.endsBySignal_of_concludes hp hconcludes, isSignal_of_error? he]
            exact iff_of_false (Option.some_ne_none _) Bool.false_ne_true
      | none =>
          obtain ⟨effects, m', s', ⟨k', r'⟩, hround, hprinted, hm', hf', hb', hk'⟩ :=
            slices_of_no_error c (r := r) (fuel + 1) hm hf hb he
          rw [hround]
          cases hsignal : (k.answerAt 0).isSignal with
          | true =>
              -- The flag is raised, so the next round makes no call.
              have hconcludes : (k.answerAt 0).concludes = true := by
                rw [PollAnswer.concludes, hsignal]
                rfl
              rw [Monitor.slices_of_shutdown _ fuel (hf'.trans hsignal)]
              refine ⟨_, rfl, ?_, ?_⟩
              · show Effect.printed (effects ++ [loopEnd]) = _
                rw [printed_append, hprinted, Kernel.watched_of_concludes hp hconcludes]
                exact List.append_nil _
              · rw [Kernel.endsBySignal_of_concludes hp hconcludes, hsignal]
                exact iff_of_true rfl rfl
          | false =>
              have hconcludes : (k.answerAt 0).concludes = false := by
                rw [PollAnswer.concludes, hsignal, he]
                rfl
              obtain ⟨hrest, hs', hnames⟩ := s.plan_of_cons (some m.slice) hs hp
              rw [← show k' = _ from hk'] at hrest hs' hnames
              obtain ⟨t, ht, hlater, herror⟩ := ih (r := r') hrest (hs'.trans hsignal) hm'
                (hf'.trans hsignal) hb' (show rest.length + 2 ≤ fuel + 1 by omega)
              rw [ht]
              refine ⟨_, rfl, ?_, ?_⟩
              · show Effect.printed (effects ++ t.effects) = _
                rw [printed_append, hprinted, hlater, ← linesOf_append,
                  Kernel.watched_of_not_concludes hp hconcludes hrest hnames]
              · show errorOf t.result = none ↔ _
                rw [herror, Kernel.endsBySignal_of_not_concludes hp hconcludes hrest]

end Loop

/-! ## The watch -/

theorem printed_openingLog {σ β : Type} (o : Opening σ β) : Effect.printed (openingLog o) = [] := by
  rw [Effect.printed, List.filterMap_eq_nil_iff, openingLog]
  simp

theorem printed_drop {σ β : Type} (h : Host σ β) (m : Monitor β) (w : σ) :
    Effect.printed (m.drop h w).2 = [] := by
  rw [Monitor.drop, Monitor.release]
  cases m.isRunning with
  | false => rfl
  | true => cases m.backend <;> rfl

/-- The monitor of a watch. -/
def watcher {β : Type} : Monitor β := ((Monitor.new β).withSlice c.slice).withBackoff c.backoff

section Watching

variable {c} {σ β : Type} {h : Host σ β} {w : σ}

/-- A watch that cannot start prints nothing but what starting does. -/
theorem watchWith_of_error {e : MonitorError} (hs : ((watcher c).start h w).result = .error e)
    (fuel : Nat) : ∃ r, watchWith c h fuel w = some r ∧ r.result = .error e ∧
      Effect.printed r.effects = Effect.printed ((watcher c).start h w).effects := by
  rw [watchWith, ← watcher]
  simp only [hs]
  refine ⟨_, rfl, rfl, ?_⟩
  rw [printed_append, printed_drop, List.append_nil]

/-- A watch that starts comes to what the loop comes to. -/
theorem watchWith_of_ok {fuel : Nat} {t : Monitor.Step σ β Unit}
    (hs : ((watcher c).start h w).result = .ok ())
    (ht : ((watcher c).start h w).monitor.processBlocking h fuel ((watcher c).start h w).world =
      some t) :
    ∃ r, watchWith c h fuel w = some r ∧ r.result = t.result ∧ Effect.printed r.effects =
      Effect.printed ((watcher c).start h w).effects ++ Effect.printed t.effects := by
  rw [watchWith, ← watcher]
  simp only [hs, ht]
  refine ⟨_, rfl, rfl, ?_⟩
  -- The log lines before and behind the loop are not printed.
  rw [printed_append, printed_append, printed_append, printed_append, printed_drop]
  cases t.result <;> simp [Effect.printed]

end Watching

theorem output_finish (logSelection : Option String) (c : Config) (done : Completion) :
    (finish logSelection c done).output = some done.output := rfl

theorem exitCode_finish (logSelection : Option String) (c : Config) (done : Completion) :
    (finish logSelection c done).exitCode =
      match done.result with
      | .ok () => success
      | .error _ => runFailure := by
  rw [finish]
  cases done.result <;> rfl

theorem exitCode_completion {σ : Type} (logSelection : Option String) (c : Config) (r : Watched σ) :
    (finish logSelection c r.completion).exitCode =
      if (errorOf r.result).isNone then success else runFailure := by
  rw [exitCode_finish, Watched.completion]
  cases r.result <;> rfl

section Watch

variable [OtherMessages] {c}

/-- A watch whose socket does not open prints nothing and fails. -/
theorem watch?_of_planned {k : Kernel} {f : Linux.OpenFailure}
    (hf : k.openings.head?.join = some f) :
    ∃ r, watch? c k = some r ∧ Effect.printed r.effects = [] ∧ errorOf r.result ≠ none := by
  have hopen : ((host c).openBackend (k, ())).backend =
      .error (Subscription.failure f.step.context f.errno) := Subscription.open_of_planned hf
  have hstart := Monitor.start_of_error (m := watcher c) rfl hopen
  have hfails : ((watcher c).start (host c) (k, ())).result =
      .error (Subscription.failure f.step.context f.errno) := by
    rw [hstart]
  obtain ⟨r, hr, hresult, hprinted⟩ := watchWith_of_error hfails k.rounds
  refine ⟨r, hr, ?_, ?_⟩
  · rw [hprinted, hstart, printed_append, printed_openingLog]
    rfl
  · rw [hresult]
    exact Option.some_ne_none _

/-- A watch whose socket opens prints the selected events, and succeeds exactly if it is concluded
by a signal. -/
theorem watch?_of_unplanned {k : Kernel} (hf : k.openings.head?.join = none)
    (hs : k.signalled = false) :
    ∃ r, watch? c k = some r ∧ Effect.printed r.effects = linesOf c k.watched ∧
      (errorOf r.result = none ↔ k.endsBySignal = true) := by
  obtain ⟨hbackend, hworld⟩ := Subscription.open_of_unplanned hf
  have hopen : ((host c).openBackend (k, ())).backend = .ok ⟨[]⟩ := hbackend
  have hstart := Monitor.start_of_ok (m := watcher c) rfl hopen
  -- Opening leaves the answers and the names as they were.
  have hpolls : (Subscription.open k).world.polls = k.polls := by
    rw [hworld]
    rfl
  have hnames : (Subscription.open k).world.interfaceNames = k.interfaceNames := by
    rw [hworld]
    rfl
  have hdown : (Subscription.open k).world.signalled = false := by
    rw [hworld]
    exact hs
  obtain ⟨t, ht, hprinted, herror⟩ := slices_host c (m := (watcher c).started ⟨[]⟩) (r := ()) hpolls
    hdown rfl rfl rfl (Nat.le_refl _)
  have hloop : ((watcher c).start (host c) (k, ())).monitor.processBlocking (host c) k.rounds
      ((watcher c).start (host c) (k, ())).world = some t := by
    rw [hstart]
    exact ht
  obtain ⟨r, hr, hresult, hlines⟩ := watchWith_of_ok (by rw [hstart]) hloop
  refine ⟨r, hr, ?_, ?_⟩
  · rw [hlines, hprinted, Kernel.watched_congr hpolls hnames, hstart, printed_append,
      printed_openingLog]
    rfl
  · rw [hresult, herror, Kernel.endsBySignal, Kernel.endsBySignal, hpolls]

/-! ## The program -/

/-- How a watch that selects the given events ends on the kernel: if the socket does not open,
nothing is printed and the program fails; or else one line for each event is printed, and the
program succeeds exactly if the watch is concluded by a signal. -/
structure WatchEnds (k : Kernel) (json : Bool) (selected : List ChangeEvent) (ending : Ending) :
    Prop where
  unopened : ∀ f, k.openings.head?.join = some f →
    ending.output = some "" ∧ ending.exitCode = runFailure
  opened : k.openings.head?.join = none →
    ending.output =
        some (String.join ((selected.map (renderEvent json)).map fun line => line ++ "\n")) ∧
      ending.exitCode = if k.endsBySignal then success else runFailure

/-- The exit code has nothing to do with what is printed. -/
theorem WatchEnds.exitCode_eq {k : Kernel} {json json' : Bool}
    {selected selected' : List ChangeEvent} {ending ending' : Ending}
    (he : WatchEnds k json selected ending) (he' : WatchEnds k json' selected' ending') :
    ending.exitCode = ending'.exitCode := by
  cases hf : k.openings.head?.join with
  | some f => rw [(he.unopened f hf).2, (he'.unopened f hf).2]
  | none => rw [(he.opened hf).2, (he'.opened hf).2]

theorem exists_watch? (c : Config) {k : Kernel} (hs : k.signalled = false)
    (logSelection : Option String) :
    ∃ r, watch? c k = some r ∧
      WatchEnds k c.json (k.watched.filter (selects c)) (finish logSelection c r.completion) := by
  cases hf : k.openings.head?.join with
  | some f =>
      obtain ⟨r, hr, hprinted, herror⟩ := watch?_of_planned (c := c) hf
      refine ⟨r, hr, fun _ _ => ⟨?_, ?_⟩, fun hnone => ?_⟩
      · rw [output_finish, Watched.completion, hprinted]
        rfl
      · rw [exitCode_completion, if_neg (mt Option.isNone_iff_eq_none.mp herror)]
      · rw [hf] at hnone
        cases hnone
  | none =>
      obtain ⟨r, hr, hprinted, herror⟩ := watch?_of_unplanned (c := c) hf hs
      refine ⟨r, hr, fun f hsome => ?_, fun _ => ⟨?_, ?_⟩⟩
      · rw [hf] at hsome
        cases hsome
      · rw [output_finish, Watched.completion, hprinted, linesOf]
      · rw [exitCode_completion, Bool.eq_iff_iff.mpr (Option.isNone_iff_eq_none.trans herror)]

theorem run_of_watch {env : Environment} {cl : CommandLine} {o : WatchOptions} {c : Config}
    (hparse : CommandLine.parse env.args = .ok cl) (hcommand : cl.command = .watch o)
    (hload : Config.load compile cl env.home env.files.readText = .ok c) :
    run env = (watch? c env.kernel).map fun r =>
      ⟨finish env.logSelection c r.completion, env.files, r.world.1⟩ := by
  simp only [run, hparse, hcommand, hload, carryOut]

/-- **The watch.** With a valid configuration, and unless the process was asked to end before it
began, a watch prints one line for each event whose interface is selected, of those that the
datagrams up to the end of the watch report, and ends as `WatchEnds` says. With any arguments that
ask for the same watch in another form, the same events are printed in the form that is configured
then, and the exit code is the same. -/
theorem run_watch {env : Environment} {cl : CommandLine} {o : WatchOptions} {c : Config}
    (hparse : CommandLine.parse env.args = .ok cl) (hcommand : cl.command = .watch o)
    (hload : Config.load compile cl env.home env.files.readText = .ok c)
    (hs : env.kernel.signalled = false) :
    ∃ report, run env = some report ∧
      WatchEnds env.kernel c.json
        (env.kernel.watched.filter fun event => c.filter.acceptsName event.interface)
        report.ending ∧
      ∃ fromFile, c.json = (o.json || fromFile) ∧
        ∀ args json, CommandLine.parse args = .ok (cl.watching { o with json }) →
          ∃ report', run { env with args } = some report' ∧
            WatchEnds env.kernel (json || fromFile)
              (env.kernel.watched.filter fun event => c.filter.acceptsName event.interface)
              report'.ending ∧
            report'.ending.exitCode = report.ending.exitCode := by
  have hwatching : Config.load compile (cl.watching o) env.home env.files.readText = .ok c := by
    rw [CommandLine.watching_self hcommand]
    exact hload
  obtain ⟨fromFile, hforms⟩ := Config.load_watching hwatching
  obtain ⟨r, hr, hends⟩ := exists_watch? c hs env.logSelection
  refine ⟨⟨finish env.logSelection c r.completion, env.files, r.world.1⟩, ?_, hends, fromFile, ?_,
    ?_⟩
  · rw [run_of_watch hparse hcommand hload, hr]
    rfl
  · have hsame : c = c.withJson (o.json || fromFile) :=
      Except.ok.inj (hwatching.symm.trans (hforms o.json))
    exact congrArg Config.json hsame
  · intro args json hparse'
    obtain ⟨r', hr', hends'⟩ := exists_watch? (c.withJson (json || fromFile)) hs env.logSelection
    refine ⟨⟨finish env.logSelection (c.withJson (json || fromFile)) r'.completion, env.files,
      r'.world.1⟩, ?_, hends', hends'.exitCode_eq hends⟩
    have hrun : run { env with args } = _ := run_of_watch hparse' rfl (hforms json)
    rw [hrun, hr']
    rfl

end Watch

/-- A program that watches, on a kernel whose second datagram reports an error between two messages
about addresses. -/
def watchedEnvironment : Environment where
  args := ["watch"]
  home := none
  files := ⟨[]⟩
  logSelection := none
  wording := .plain
  kernel :=
    { polls :=
        [.failure SystemError.interrupted, .ready (.ok Subscription.addressAdded),
          .ready (.error SystemError.noBufferSpace),
          .ready (.ok (Subscription.addressAdded ++ Subscription.errorReported ++
            Subscription.addressAdded)),
          .signal]
      interfaceNames := [(3, [101, 116, 104, 48])] }

section

attribute [local instance] OtherMessages.framing

/-- The message before the error is printed, and the one behind it is not; the signal comes too
late. In JSON it is the same event. -/
theorem run_watch_of_error_behind_address :
    ∃ report report', run watchedEnvironment = some report ∧
      run { watchedEnvironment with args := ["watch", "--json"] } = some report' ∧
      report.ending.output = some "[added] eth0 10.8.0.2 (IPv4)\n[added] eth0 10.8.0.2 (IPv4)\n" ∧
      report'.ending.output = some (String.join (List.replicate 2
        ("\x7b\"interface\":\"eth0\",\"address\":\"10.8.0.2\",\"family\":\"IPv4\"," ++
          "\"kind\":\"added\"\x7d\n"))) ∧
      report.ending.exitCode = 2 ∧ report'.ending.exitCode = 2 := by
  have hparse : CommandLine.parse watchedEnvironment.args = .ok ⟨.watch {}, none, false⟩ := by
    decide +kernel
  have hjson : CommandLine.parse ["watch", "--json"] =
      .ok (CommandLine.watching ⟨.watch {}, none, false⟩ { json := true }) := by
    decide +kernel
  have hload : Config.load compile ⟨.watch {}, none, false⟩ watchedEnvironment.home
      watchedEnvironment.files.readText =
        .ok (Config.merged ⟨.watch {}, none, false⟩ {} [] []) := rfl
  obtain ⟨report, hrun, hends, fromFile, -, hforms⟩ := run_watch hparse rfl hload rfl
  obtain ⟨report', hrun', hends', hexit⟩ := hforms ["watch", "--json"] true hjson
  obtain ⟨houtput, hcode⟩ := hends.opened rfl
  have houtput' := (hends'.opened rfl).1
  have hfails : watchedEnvironment.kernel.endsBySignal = false := by decide +kernel
  rw [hfails] at hcode
  rw [Bool.true_or] at houtput'
  refine ⟨report, report', hrun, hrun', ?_, ?_, hcode, hexit.trans hcode⟩
  · rw [houtput]
    decide +kernel
  · rw [houtput']
    decide +kernel

end

end Program

end AddressWatch
