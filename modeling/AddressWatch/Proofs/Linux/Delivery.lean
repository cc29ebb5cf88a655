/-
  AddressWatch.Proofs.Linux.Delivery

  Calls of a monitor over the subscription, one after the other. Each call that meets a running
  monitor takes the next answer of the kernel's plan, and what it delivers is what that answer says
  (`Delivers`): no event of a datagram is lost, repeated, or reported by a later call
  (`delivery`).
-/

import AddressWatch.Proofs.Linux.Answer
import AddressWatch.Proofs.Monitor.Failure
import AddressWatch.Proofs.Route.ErrorMessage

namespace AddressWatch

/-! ## Calls in a row -/

namespace Monitor

variable {σ β : Type}

/-- One of several calls: its timeout, and the monitor and the world that it meets. -/
structure Call (σ β : Type) where
  timeout : Wait
  monitor : Monitor β
  world : σ

/-- What the call comes to. -/
def Call.step (h : Host σ β) (c : Call σ β) : Step σ β Outcome :=
  c.monitor.process h c.timeout c.world

/-- Calls with the given timeouts, one after the other. -/
def callsWith (h : Host σ β) : List Wait → Monitor β → σ → List (Call σ β)
  | [], _, _ => []
  | timeout :: rest, m, w =>
    ⟨timeout, m, w⟩ ::
      callsWith h rest (m.process h timeout w).monitor (m.process h timeout w).world

variable {h : Host σ β}

/-- There is one call for each timeout. -/
theorem getElem?_callsWith (timeouts : List Wait) (m : Monitor β) (w : σ) (i : Nat) :
    ((callsWith h timeouts m w)[i]?).map (·.timeout) = timeouts[i]? := by
  induction timeouts generalizing m w i with
  | nil => rfl
  | cons timeout rest ih =>
      cases i with
      | zero => rfl
      | succ i => exact ih _ _ i

/-- A monitor without a source stays so, and every call is refused. -/
theorem refused_of_mem_callsWith {timeouts : List Wait} {m : Monitor β} {w : σ} {c : Call σ β}
    (hm : m.state ≠ .running) (hb : m.backend = none) (hmem : c ∈ callsWith h timeouts m w) :
    c.monitor.state ≠ .running ∧ c.step h = c.monitor.fail .notRunning c.world [] := by
  induction timeouts generalizing m w with
  | nil => cases hmem
  | cons timeout rest ih =>
      rcases List.mem_cons.mp hmem with rfl | hrest
      · exact ⟨hm, process_of_none hb⟩
      · rw [process_of_none hb] at hrest
        exact ih (m := m.failed .notRunning) (w := w) hm hb hrest

end Monitor

namespace Linux

open Route (readDatagram frames Frame errorNumber OtherMessages)
open Monitor (Call callsWith errorOf)

namespace Subscription

section

variable [OtherMessages] {κ : Type}

/-! ## The kernel after a call -/

/-- The receiver of changes makes no system calls. -/
theorem fst_foldl_worldAfter {receiver : ChangeEvent → κ → List Action × κ}
    {signalled : List Action} (os : List Occurrence) (k : Kernel) (r : κ) :
    (os.foldl (host receiver signalled).worldAfter (k, r)).1 = k :=
  Host.foldl_worldAfter Prod.fst (fun _ _ => rfl) os (k, r)

/-- Whether the call of an answer ends with an error that stops the monitor. -/
def stops (a : PollAnswer) : Bool := a.error?.any (·.isFatal)

section Process

variable (receiver : ChangeEvent → κ → List Action × κ) (signalled : List Action)
  {m : Monitor Subscription} {s : Subscription} (timeout : Wait) (k : Kernel) (r : κ)

/-- After a call that stops the monitor there is no source, and its socket is closed. -/
theorem process_of_stops (hb : m.backend = some s) (ha : stops (k.answerAt 0) = true) :
    (m.process (host receiver signalled) timeout (k, r)).monitor.state = .stopped ∧
      (m.process (host receiver signalled) timeout (k, r)).monitor.backend = none ∧
      (m.process (host receiver signalled) timeout (k, r)).world.1 =
        (s.process timeout k).world.close := by
  rw [stops, ← (serves_process s timeout k).error] at ha
  cases ho : (s.process timeout k).outcome with
  | ok outcome =>
      rw [ho] at ha
      cases ha
  | error e =>
      rw [ho] at ha
      have hreaction : ((m.session s (k, r)).reaction (host receiver signalled) timeout).outcome =
          .error e := ho
      rw [Monitor.process_of_fatal hb hreaction ha]
      exact ⟨rfl, rfl, congrArg Kernel.close (fst_foldl_worldAfter _ _ _)⟩

/-- After any other call the monitor runs on with its source. -/
theorem process_of_not_stops (hm : m.state = .running) (hb : m.backend = some s)
    (ha : stops (k.answerAt 0) = false) :
    (m.process (host receiver signalled) timeout (k, r)).monitor.state = .running ∧
      (m.process (host receiver signalled) timeout (k, r)).monitor.backend =
        some (s.process timeout k).backend ∧
      (m.process (host receiver signalled) timeout (k, r)).world.1 =
        (s.process timeout k).world := by
  rw [stops, ← (serves_process s timeout k).error] at ha
  cases ho : (s.process timeout k).outcome with
  | ok outcome =>
      have hreaction : ((m.session s (k, r)).reaction (host receiver signalled) timeout).outcome =
          .ok outcome := ho
      rw [Monitor.process_of_ok hb hreaction]
      exact ⟨hm, rfl, fst_foldl_worldAfter _ _ _⟩
  | error e =>
      rw [ho] at ha
      have hreaction : ((m.session s (k, r)).reaction (host receiver signalled) timeout).outcome =
          .error e := ho
      rw [Monitor.process_of_error hb hreaction ha]
      exact ⟨hm, rfl, fst_foldl_worldAfter _ _ _⟩

/-- The plan goes on behind the answer that a call has used up, under the same names. -/
theorem plan_process (hm : m.state = .running) (hb : m.backend = some s) :
    (∀ i, (m.process (host receiver signalled) timeout (k, r)).world.1.answerAt i =
        k.answerAt (i + 1)) ∧
      (m.process (host receiver signalled) timeout (k, r)).world.1.interfaceNames =
        k.interfaceNames := by
  obtain ⟨arrived, hkernel⟩ := (serves_process s timeout k).kernel
  have hplan := (k.poll_spec timeout.argument).2
  have hnames := (k.poll_frame timeout.argument).2.1
  cases ha : stops (k.answerAt 0) with
  | true =>
      rw [(process_of_stops receiver signalled timeout k r hb ha).2.2, hkernel]
      exact ⟨hplan, hnames⟩
  | false =>
      rw [(process_of_not_stops receiver signalled timeout k r hm hb ha).2.2, hkernel]
      exact ⟨hplan, hnames⟩

end Process

/-! ## What a call delivers -/

/-- The call with the timeout, made on the kernel `before`, comes to what the answer says; the names
of the interfaces are those of `k`. -/
structure Delivers (k before : Kernel) (timeout : Wait) (a : PollAnswer)
    (t : Monitor.Step (Kernel × κ) Subscription Outcome) : Prop where
  /-- The events are those of the notices in what was read after this answer. -/
  events : Effect.events t.effects = (readDatagram a.datagram).notices.filterMap k.event?
  /-- There is one wait, first of all, and one read if the wait said that it is possible. -/
  calls : ∃ made : List SystemCall, t.world.1.calls = made.reverse ++ before.calls ∧
    made.head? = some (.poll timeout.argument) ∧ made.countP (·.isPoll) = 1 ∧
    made.count .recv = if a.isReady then 1 else 0
  error : errorOf t.result = a.error?
  counted : ∀ n, t.result = .ok (.processed n) → (Effect.events t.effects).length = n
  idle : t.result = .ok .timedOut ∨ t.result = .ok .interrupted ∨
    (∃ context source, t.result = .error (.io context source)) → Effect.events t.effects = []
  /-- An error message ends the datagram, and the events are those of the messages before it. -/
  protocol : ∀ errno, t.result = .error (.protocol errno) → ∃ first stop code,
    frames 0 a.datagram = first ++ [⟨stop, .error code⟩] ∧ code ≠ 0 ∧ errno = errorNumber code ∧
      Effect.events t.effects = (first.filterMap Frame.notice?).filterMap k.event?

/-- The system calls of a call wait once and read at most once. -/
theorem calls_counts (a : PollAnswer) (timeout : Wait) :
    (a.calls timeout).countP (·.isPoll) = 1 ∧
      (a.calls timeout).count .recv = if a.isReady then 1 else 0 := by
  -- Looking at interfaces is neither of them.
  have hlooks : ∀ notices : List Route.Notice,
      (notices.map fun n => SystemCall.interfaceName n.index).countP (·.isPoll) = 0 ∧
        (notices.map fun n => SystemCall.interfaceName n.index).count .recv = 0 := by
    intro notices
    rw [List.countP_eq_zero, List.count_eq_zero]
    constructor <;> simp [SystemCall.isPoll]
  rw [PollAnswer.calls]
  cases a.isReady with
  | true =>
      obtain ⟨hpolls, hrecvs⟩ := hlooks (readDatagram a.datagram).notices
      rw [if_pos rfl, if_pos rfl, List.countP_cons, List.countP_cons, hpolls, List.count_cons,
        List.count_cons, hrecvs]
      exact ⟨rfl, rfl⟩
  | false => exact ⟨rfl, rfl⟩

theorem delivers_process (receiver : ChangeEvent → κ → List Action × κ) (signalled : List Action)
    {m : Monitor Subscription} {s : Subscription} (timeout : Wait) (k : Kernel) (r : κ)
    (hm : m.state = .running) (hb : m.backend = some s) :
    Delivers k k timeout (k.answerAt 0) (m.process (host receiver signalled) timeout (k, r)) := by
  have hserves := serves_process s timeout k
  have hevents : Effect.events (m.process (host receiver signalled) timeout (k, r)).effects =
      (s.process timeout k).events := Monitor.events_process hb
  have hresult : (m.process (host receiver signalled) timeout (k, r)).result =
      (s.process timeout k).outcome := Monitor.result_process hb
  obtain ⟨arrived, hkernel⟩ := hserves.kernel
  obtain ⟨hpolls, hrecvs⟩ := calls_counts (k.answerAt 0) timeout
  refine ⟨hevents.trans hserves.events, ?_, ?_, ?_, ?_, ?_⟩
  · cases ha : stops (k.answerAt 0) with
    | true =>
        -- The socket is closed after the call.
        refine ⟨(k.answerAt 0).calls timeout ++ [.close], ?_, rfl, ?_, ?_⟩
        · rw [(process_of_stops receiver signalled timeout k r hb ha).2.2, hkernel,
            List.reverse_append]
          rfl
        · rw [List.countP_append, hpolls]
          rfl
        · rw [List.count_append, hrecvs]
          rfl
    | false =>
        refine ⟨(k.answerAt 0).calls timeout, ?_, rfl, hpolls, hrecvs⟩
        rw [(process_of_not_stops receiver signalled timeout k r hm hb ha).2.2, hkernel]
  · rw [hresult]
    exact hserves.error
  · intro n hn
    rw [hresult] at hn
    rw [hevents]
    exact (hserves.counted n hn).symm
  · intro ho
    rw [hresult] at ho
    rw [hevents]
    rcases ho with ho | ho | ⟨context, source, ho⟩
    · exact hserves.idle (.inl ho)
    · exact hserves.idle (.inr ho)
    · have herror := hserves.error
      rw [ho] at herror
      rw [hserves.events]
      exact k.reported_of_nothing (PollAnswer.datagram_of_io herror.symm)
  · intro errno ho
    rw [hresult] at ho
    have herror := hserves.error
    rw [ho] at herror
    obtain ⟨bytes, hanswer, hread⟩ := PollAnswer.error_of_protocol herror.symm
    obtain ⟨first, stop, code, hframes, hcode, herrno⟩ := Route.frames_of_error hread
    have hdatagram : (k.answerAt 0).datagram = bytes.take capacity := by
      rw [hanswer]
      rfl
    rw [← hdatagram] at hframes
    refine ⟨first, stop, code, hframes, hcode, herrno, ?_⟩
    rw [hevents, hserves.events, Kernel.reported, Route.notices_of_error hframes]

/-- The same answer delivers the same under the same names. -/
theorem Delivers.congr {k k' before : Kernel} {timeout : Wait} {a : PollAnswer}
    {t : Monitor.Step (Kernel × κ) Subscription Outcome}
    (hk : k'.interfaceNames = k.interfaceNames) (ht : Delivers k' before timeout a t) :
    Delivers k before timeout a t := by
  have hevent : k.event? = k'.event? := (event?_congr hk).symm
  refine ⟨?_, ht.calls, ht.error, ht.counted, ht.idle, ?_⟩
  · rw [hevent]
    exact ht.events
  · rw [hevent]
    exact ht.protocol

/-! ## Calls in a row -/

/-- **Delivery.** A running monitor is asked with the given timeouts, one after the other. Until an
answer of the plan stops it, each call takes the answer of its number and delivers what that answer
says, whatever the source has read before; from then on each call is refused and does nothing. -/
theorem delivery (receiver : ChangeEvent → κ → List Action × κ) (signalled : List Action)
    {m : Monitor Subscription} {s : Subscription} (hm : m.state = .running)
    (hb : m.backend = some s) (timeouts : List Wait) (k : Kernel) (r : κ) (i : Nat)
    (hi : i < timeouts.length) :
    ∃ c, (callsWith (host receiver signalled) timeouts m (k, r))[i]? = some c ∧
      c.timeout = timeouts[i] ∧
      (c.monitor.state = .running ↔ ∀ j < i, stops (k.answerAt j) = false) ∧
      (c.monitor.state = .running →
        Delivers k c.world.1 c.timeout (k.answerAt i) (c.step (host receiver signalled))) ∧
      (c.monitor.state ≠ .running →
        c.step (host receiver signalled) = c.monitor.fail .notRunning c.world []) := by
  -- On the timeouts: the first call uses up the first answer, the others find the later ones.
  induction timeouts generalizing m s k r i with
  | nil => cases hi
  | cons timeout rest ih =>
      cases i with
      | zero =>
          refine ⟨⟨timeout, m, (k, r)⟩, rfl, rfl, iff_of_true hm nofun, fun _ => ?_,
            fun hne => absurd hm hne⟩
          exact delivers_process receiver signalled timeout k r hm hb
      | succ i =>
          have hrest : i < rest.length := Nat.lt_of_succ_lt_succ hi
          obtain ⟨hplan, hnames⟩ := plan_process receiver signalled timeout k r hm hb
          cases ha : stops (k.answerAt 0) with
          | true =>
              -- The monitor has stopped, so this call and all later ones are refused.
              obtain ⟨hstate, hbackend, -⟩ :=
                process_of_stops receiver signalled timeout k r hb ha
              have hget := Monitor.getElem?_callsWith (h := host receiver signalled) rest
                (m.process (host receiver signalled) timeout (k, r)).monitor
                (m.process (host receiver signalled) timeout (k, r)).world i
              rw [List.getElem?_eq_getElem hrest, Option.map_eq_some_iff] at hget
              obtain ⟨c, hc, htimeout⟩ := hget
              have hstopped : (m.process (host receiver signalled) timeout (k, r)).monitor.state ≠
                  .running := by
                rw [hstate]
                decide
              obtain ⟨hnot, hrefused⟩ := Monitor.refused_of_mem_callsWith hstopped hbackend
                (List.mem_of_getElem? hc)
              refine ⟨c, hc, htimeout, iff_of_false hnot ?_, fun hrun => absurd hrun hnot,
                fun _ => hrefused⟩
              intro hgo
              rw [hgo 0 (Nat.succ_pos i)] at ha
              cases ha
          | false =>
              obtain ⟨hstate, hbackend, -⟩ :=
                process_of_not_stops receiver signalled timeout k r hm hb ha
              obtain ⟨c, hc, htimeout, hiff, hdelivers, hrefused⟩ := ih hstate hbackend
                (m.process (host receiver signalled) timeout (k, r)).world.1
                (m.process (host receiver signalled) timeout (k, r)).world.2 i hrest
              refine ⟨c, hc, htimeout, ?_, ?_, hrefused⟩
              · rw [hiff]
                constructor
                · intro hgo j hj
                  cases j with
                  | zero => exact ha
                  | succ j =>
                      rw [← hplan j]
                      exact hgo j (Nat.lt_of_succ_lt_succ hj)
                · intro hgo j hj
                  rw [hplan j]
                  exact hgo (j + 1) (Nat.succ_lt_succ hj)
              · intro hrun
                rw [← hplan i]
                exact (hdelivers hrun).congr hnames

end

/-- An address was added to the interface with the index 3. -/
def addressAdded : List UInt8 :=
  [32, 0, 0, 0, 20, 0, 0, 0, 7, 0, 0, 0, 0, 0, 0, 0,
    2, 24, 0x80, 0, 3, 0, 0, 0,
    8, 0, 2, 0, 10, 8, 0, 2]

/-- An error message with the code -13. -/
def errorReported : List UInt8 :=
  [20, 0, 0, 0, 2, 0, 0, 0, 0, 0, 0, 0, 0, 0, 0, 0, 0xf3, 0xff, 0xff, 0xff]

section

attribute [local instance] OtherMessages.framing

/-- The third call reads a message about an address, an error message, and one about an address
again; it delivers the first, and nothing of the longer datagram that the first call read. -/
theorem delivery_of_error_behind_address :
    let m : Monitor Subscription :=
      { Monitor.new Subscription with state := .running, backend := some ⟨[1, 2, 3]⟩ }
    let k : Kernel :=
      { polls :=
          [.ready (.ok (addressAdded ++ addressAdded ++ addressAdded ++ addressAdded)),
            .failure SystemError.interrupted,
            .ready (.ok (addressAdded ++ errorReported ++ addressAdded))]
        interfaceNames := [(3, [101, 116, 104, 48])] }
    ∃ c, (callsWith (host (fun _ r => ([], r)) []) [none, none, some Monitor.defaultSlice] m
        (k, ()))[2]? = some c ∧
      Effect.events (c.step (host (fun _ r => ([], r)) [])).effects =
        [⟨"eth0", .v4 ⟨10, 8, 0, 2⟩, .added⟩] ∧
      errorOf (c.step (host (fun _ r => ([], r)) [])).result = some (.protocol 13) := by
  intro m k
  obtain ⟨c, hc, -, hrunning, hdelivers, -⟩ :=
    delivery (fun _ r => ([], r)) [] (m := m) (s := ⟨[1, 2, 3]⟩) rfl rfl
      [none, none, some Monitor.defaultSlice] k () 2 (by decide)
  have hruns : c.monitor.state = .running := by
    rw [hrunning]
    decide +kernel
  have hcall := hdelivers hruns
  refine ⟨c, hc, ?_, ?_⟩
  · rw [hcall.events]
    decide +kernel
  · rw [hcall.error]
    decide +kernel

end

end Subscription

end Linux

end AddressWatch
