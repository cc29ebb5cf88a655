/-
  AddressWatch.Proofs.Linux.Answer

  A call of the subscription as a function of what its wait comes to. The answers to the waits are
  those of the kernel's plan, one after the other (`Kernel.answerAt`); the answer alone decides
  which system calls are made, which events are reported, and whether the call fails (`Serves`), so
  nothing of an earlier call shows in a later one.
-/

import AddressWatch.Proofs.Linux.Reception

namespace AddressWatch.Linux

open Route (Notice Finding readDatagram OtherMessages)
open Monitor (errorOf)

/-- Whether a system call is a wait. -/
def SystemCall.isPoll : SystemCall → Bool
  | .poll _ => true
  | _ => false

/-! ## Answers to a wait -/

namespace PollAnswer

/-- Whether a read is possible. -/
def isReady : PollAnswer → Bool
  | .ready _ => true
  | _ => false

/-- Whether the process is asked to end. -/
def isSignal : PollAnswer → Bool
  | .signal => true
  | _ => false

/-- What the next read comes to after the answer, if it came to `before` until then. -/
def arrival (before : Except Int32 (List UInt8)) : PollAnswer → Except Int32 (List UInt8)
  | .ready read => read
  | _ => before

/-- The bytes that are read after the answer: of a datagram what fits the buffer, or else none. -/
def datagram : PollAnswer → List UInt8
  | .ready (.ok bytes) => bytes.take Subscription.capacity
  | _ => []

section

variable [OtherMessages]

/-- The error to which a call comes after the answer, if it fails. An interruption, a queue that is
empty and one that overflowed are no failures. -/
def error? : PollAnswer → Option MonitorError
  | .timeout | .signal => none
  | .failure errno =>
    if errno = SystemError.interrupted then none else some (Subscription.failure "poll" errno)
  | .ready (.error errno) =>
    if errno = SystemError.wouldBlock ∨ errno = SystemError.interrupted ∨
        errno = SystemError.noBufferSpace then none
    else some (Subscription.failure "recv" errno)
  | .ready (.ok bytes) =>
    (readDatagram (bytes.take Subscription.capacity)).error.map .protocol

/-- The system calls of a call that waits, in order: one wait, and only if a read is possible one
read and a look at the interface of each notice that was read. -/
def calls (timeout : Wait) (a : PollAnswer) : List SystemCall :=
  .poll timeout.argument ::
    if a.isReady then
      .recv :: (readDatagram a.datagram).notices.map fun n => .interfaceName n.index
    else []

/-- Nothing is read in a call that fails with a system call. -/
theorem datagram_of_io {a : PollAnswer} {context : String} {source : SystemError}
    (he : a.error? = some (.io context source)) : a.datagram = [] := by
  match a with
  | .timeout | .signal | .failure _ | .ready (.error _) => rfl
  | .ready (.ok bytes) =>
      obtain ⟨errno, -, hio⟩ := Option.map_eq_some_iff.mp he
      cases hio

/-- A call fails with a system call, or with the error that a datagram reports. -/
theorem error_cases {a : PollAnswer} {e : MonitorError} (he : a.error? = some e) :
    (∃ context errno, e = Subscription.failure context errno) ∨
      ∃ bytes errno, a = .ready (.ok bytes) ∧ e = .protocol errno ∧
        (readDatagram (bytes.take Subscription.capacity)).error = some errno := by
  match a with
  | .timeout | .signal => cases he
  | .failure errno =>
      obtain ⟨-, hio⟩ := Option.ite_none_left_eq_some.mp he
      exact .inl ⟨"poll", errno, (Option.some.inj hio).symm⟩
  | .ready (.error errno) =>
      obtain ⟨-, hio⟩ := Option.ite_none_left_eq_some.mp he
      exact .inl ⟨"recv", errno, (Option.some.inj hio).symm⟩
  | .ready (.ok bytes) =>
      obtain ⟨errno, hread, hprotocol⟩ := Option.map_eq_some_iff.mp he
      exact .inr ⟨bytes, errno, rfl, hprotocol.symm, hread⟩

/-- An error of the protocol is the error of the datagram that was read. -/
theorem error_of_protocol {a : PollAnswer} {errno : Int32}
    (he : a.error? = some (.protocol errno)) : ∃ bytes, a = .ready (.ok bytes) ∧
      (readDatagram (bytes.take Subscription.capacity)).error = some errno := by
  rcases error_cases he with ⟨context, number, hio⟩ | ⟨bytes, number, ha, hprotocol, hread⟩
  · cases hio
  · cases hprotocol
    exact ⟨bytes, ha, hread⟩

end

end PollAnswer

/-! ## The plan of the answers -/

namespace Kernel

/-- What the wait with the given number, counted from zero, comes to. -/
def answerAt (k : Kernel) (i : Nat) : PollAnswer :=
  if k.signalled || (k.polls.take i).any (·.isSignal) then .timeout
  else (k.polls[i]?).getD (.failure badDescriptor)

/-- The events of the notices that are read after an answer, as far as their interfaces have
names. -/
def reported [OtherMessages] (k : Kernel) (a : PollAnswer) : List ChangeEvent :=
  (readDatagram a.datagram).notices.filterMap k.event?

theorem reported_of_nothing [OtherMessages] (k : Kernel) {a : PollAnswer} (ha : a.datagram = []) :
    k.reported a = [] := by
  rw [reported, ha, Route.readDatagram_nil]
  rfl

theorem reported_congr [OtherMessages] {k k' : Kernel}
    (hk : k'.interfaceNames = k.interfaceNames) : k'.reported = k.reported := by
  funext a
  rw [reported, reported, Subscription.event?_congr hk]

theorem poll_of_signalled {k : Kernel} (ms : Int) (hs : k.signalled = true) :
    k.poll ms = (.timeout, k.record (.poll ms)) := by
  have hs' : (k.record (.poll ms)).signalled = true := hs
  rw [poll, hs', if_pos rfl]

theorem poll_of_nil {k : Kernel} (ms : Int) (hs : k.signalled = false) (hp : k.polls = []) :
    k.poll ms = (.failure badDescriptor, k.record (.poll ms)) := by
  have hs' : (k.record (.poll ms)).signalled = false := hs
  have hp' : (k.record (.poll ms)).polls = [] := hp
  simp only [poll, hs', hp', Bool.false_eq_true, if_false]

/-- A wait uses up the answer that is next in the plan. -/
theorem poll_of_cons {k : Kernel} {a : PollAnswer} {rest : List PollAnswer} (ms : Int)
    (hs : k.signalled = false) (hp : k.polls = a :: rest) :
    k.poll ms =
      (a, { k.record (.poll ms) with
        polls := rest
        signalled := a.isSignal
        arrived := a.arrival k.arrived }) := by
  have hs' : (k.record (.poll ms)).signalled = false := hs
  have hp' : (k.record (.poll ms)).polls = a :: rest := hp
  simp only [poll, hs', hp', Bool.false_eq_true, if_false]
  cases a <;> simp only [PollAnswer.isSignal, PollAnswer.arrival, record, hs]

theorem answerAt_of_signalled {k : Kernel} (hs : k.signalled = true) (i : Nat) :
    k.answerAt i = .timeout := by
  rw [answerAt, hs]
  rfl

theorem answerAt_of_nil {k : Kernel} (hs : k.signalled = false) (hp : k.polls = []) (i : Nat) :
    k.answerAt i = .failure badDescriptor := by
  rw [answerAt, hs, hp, List.take_nil]
  rfl

/-- What is still to come of a plan of which the first answer is used up. -/
theorem answerAt_succ_of_cons {k k' : Kernel} {a : PollAnswer} {rest : List PollAnswer}
    (hs : k.signalled = false) (hp : k.polls = a :: rest) (hs' : k'.signalled = a.isSignal)
    (hp' : k'.polls = rest) (i : Nat) : k'.answerAt i = k.answerAt (i + 1) := by
  rw [answerAt, answerAt, hs, hp, hs', hp', List.take_succ_cons, List.any_cons, Bool.false_or]
  rfl

/-- A wait goes on record and changes no name; what can be read after it is what it came to. -/
theorem poll_frame (k : Kernel) (ms : Int) :
    (k.poll ms).2.calls = .poll ms :: k.calls ∧
      (k.poll ms).2.interfaceNames = k.interfaceNames ∧
      (k.poll ms).2.arrived = (k.poll ms).1.arrival k.arrived := by
  cases hs : k.signalled with
  | true =>
      rw [poll_of_signalled ms hs]
      exact ⟨rfl, rfl, rfl⟩
  | false =>
      cases hp : k.polls with
      | nil =>
          rw [poll_of_nil ms hs hp]
          exact ⟨rfl, rfl, rfl⟩
      | cons a rest =>
          rw [poll_of_cons ms hs hp]
          exact ⟨rfl, rfl, rfl⟩

/-- A wait comes to the first answer of the plan, and leaves the later ones. -/
theorem poll_spec (k : Kernel) (ms : Int) :
    (k.poll ms).1 = k.answerAt 0 ∧ ∀ i, (k.poll ms).2.answerAt i = k.answerAt (i + 1) := by
  cases hs : k.signalled with
  | true =>
      have hs' : (k.record (.poll ms)).signalled = true := hs
      rw [poll_of_signalled ms hs, answerAt_of_signalled hs]
      refine ⟨rfl, fun i => ?_⟩
      rw [answerAt_of_signalled hs, answerAt_of_signalled hs']
  | false =>
      cases hp : k.polls with
      | nil =>
          have hs' : (k.record (.poll ms)).signalled = false := hs
          have hp' : (k.record (.poll ms)).polls = [] := hp
          rw [poll_of_nil ms hs hp, answerAt_of_nil hs hp]
          refine ⟨rfl, fun i => ?_⟩
          rw [answerAt_of_nil hs hp, answerAt_of_nil hs' hp']
      | cons a rest =>
          rw [poll_of_cons ms hs hp]
          refine ⟨?_, answerAt_succ_of_cons hs hp rfl rfl⟩
          rw [answerAt, hs, hp]
          rfl

end Kernel

namespace Subscription

/-! ## What a datagram is turned into -/

/-- Looking at the findings of a datagram is on record; nothing else of the kernel changes. -/
theorem kernel_occurrences (fs : List Finding) (k : Kernel) :
    (occurrences fs k).2 = { k with
      calls :=
        ((fs.filterMap noticeOf?).map fun n => .interfaceName n.index).reverse ++ k.calls } := by
  induction fs generalizing k with
  | nil => rfl
  | cons f rest ih =>
      show (occurrences rest (occurrence f k).2).2 = _
      rw [ih]
      cases f with
      | notice n =>
          have hone : (occurrence (.notice n) k).2 = k.record (.interfaceName n.index) := by
            rw [occurrence, Kernel.interfaceName?]
            cases (k.interfaceNames.lookup n.index).map (·.take Kernel.maxNameLength) <;> rfl
          rw [hone]
          simp [Kernel.record, noticeOf?]
      | withoutAddress => rfl
      | unreadable offset => rfl

/-- A finding is a change or a log line. -/
theorem occurrence_cases (f : Finding) (k : Kernel) :
    (∃ event, (occurrence f k).1 = .change event) ∨
      ∃ line, (occurrence f k).1 = .action (.log line) := by
  cases f with
  | notice n =>
      rw [occurrence]
      cases k.interfaceName? n.index with
      | mk name k' =>
          cases name with
          | some bytes => exact .inl ⟨_, rfl⟩
          | none => exact .inr ⟨_, rfl⟩
  | withoutAddress => exact .inr ⟨_, rfl⟩
  | unreadable offset => exact .inr ⟨_, rfl⟩

theorem cases_of_mem_occurrences {fs : List Finding} {k : Kernel} {o : Occurrence}
    (ho : o ∈ (occurrences fs k).1) :
    (∃ event, o = .change event) ∨ ∃ line, o = .action (.log line) := by
  induction fs generalizing k with
  | nil => cases ho
  | cons f rest ih =>
      rcases List.mem_cons.mp (show o ∈ (occurrence f k).1 :: _ from ho) with rfl | hrest
      · exact occurrence_cases f k
      · exact ih hrest

theorem changes_eq_length (os : List Occurrence) :
    changes os = (os.filterMap Occurrence.change?).length := by
  rw [changes, List.length_filterMap_eq_countP]
  congr 1
  funext o
  cases o <;> rfl

/-! ## One call -/

/-- A read after the wait takes what arrived, cut to the buffer. -/
theorem recv_of_ready {k k' : Kernel} {timeout : Wait} {read : Except Int32 (List UInt8)}
    (hp : k.poll timeout.argument = (.ready read, k')) :
    k'.recv capacity = (read.map (·.take capacity),
      { k' with
        calls := .recv :: .poll timeout.argument :: k.calls
        arrived := .error SystemError.wouldBlock }) := by
  obtain ⟨hcalls, -, harrived⟩ := k.poll_frame timeout.argument
  rw [hp] at hcalls harrived
  have harrived' : k'.arrived = read := harrived
  have hcalls' : k'.calls = .poll timeout.argument :: k.calls := hcalls
  rw [Kernel.recv, Kernel.record, harrived', hcalls']

section

variable [OtherMessages]

/-- The call comes to what the answer to its wait says. -/
structure Serves (k : Kernel) (timeout : Wait) (a : PollAnswer)
    (r : Reaction Kernel Subscription) : Prop where
  events : r.events = k.reported a
  error : errorOf r.outcome = a.error?
  /-- The count is that of the events. -/
  counted : ∀ n, r.outcome = .ok (.processed n) → n = r.events.length
  idle : r.outcome = .ok .timedOut ∨ r.outcome = .ok .interrupted → r.events = []
  /-- What occurs is a change, a log line, or the signal of the answer. -/
  occurs : ∀ o ∈ r.occurrences, (∃ event, o = .change event) ∨
    (∃ line, o = .action (.log line)) ∨ o = .signal ∧ a.isSignal = true
  signal : a.isSignal = true → .signal ∈ r.occurrences
  /-- The plan goes on behind the answer, and the calls are on record. -/
  kernel : ∃ arrived, r.world = { (k.poll timeout.argument).2 with
    arrived, calls := (a.calls timeout).reverse ++ k.calls }

/-- A call that reads nothing reports nothing. -/
theorem serves_of_nothing {k : Kernel} {timeout : Wait} {a : PollAnswer}
    {r : Reaction Kernel Subscription} (ha : a.datagram = [])
    (herror : errorOf r.outcome = a.error?)
    (hcount : ∀ n, r.outcome = .ok (.processed n) → n = 0)
    (hoccurs : ∀ o ∈ r.occurrences, (∃ line, o = .action (.log line)) ∨
      o = .signal ∧ a.isSignal = true)
    (hsignal : a.isSignal = true → .signal ∈ r.occurrences)
    (hkernel : ∃ arrived, r.world = { (k.poll timeout.argument).2 with
      arrived, calls := (a.calls timeout).reverse ++ k.calls }) : Serves k timeout a r := by
  have hevents : r.events = [] := by
    rw [Reaction.events, List.filterMap_eq_nil_iff]
    intro o ho
    rcases hoccurs o ho with ⟨line, rfl⟩ | ⟨rfl, -⟩ <;> rfl
  refine ⟨?_, herror, ?_, fun _ => hevents, fun o ho => .inr (hoccurs o ho), hsignal, hkernel⟩
  · rw [hevents, k.reported_of_nothing ha]
  · intro n hn
    rw [hcount n hn, hevents]
    rfl

theorem readFailure_spec (errno : Int32) :
    errorOf (readFailure errno).2 = (PollAnswer.ready (.error errno)).error? ∧
      (∀ n, (readFailure errno).2 = .ok (.processed n) → n = 0) ∧
      ∀ o ∈ (readFailure errno).1, ∃ line, o = .action (.log line) := by
  rw [PollAnswer.error?, readFailure]
  by_cases hblock : errno = SystemError.wouldBlock
  · rw [if_pos hblock, if_pos (.inl hblock)]
    exact ⟨rfl, nofun, nofun⟩
  · rw [if_neg hblock]
    by_cases hint : errno = SystemError.interrupted
    · rw [if_pos hint, if_pos (.inr (.inl hint))]
      exact ⟨rfl, nofun, nofun⟩
    · rw [if_neg hint]
      by_cases hspace : errno = SystemError.noBufferSpace
      · rw [if_pos hspace, if_pos (.inr (.inr hspace))]
        refine ⟨rfl, ?_, fun o ho => ⟨_, List.mem_singleton.mp ho⟩⟩
        rintro n ⟨⟩
        rfl
      · rw [if_neg hspace, if_neg (not_or.mpr ⟨hblock, not_or.mpr ⟨hint, hspace⟩⟩)]
        exact ⟨rfl, nofun, nofun⟩

section Calls

variable {s : Subscription} {k k' : Kernel} {timeout : Wait}

theorem serves_of_read_failure {errno : Int32}
    (hp : k.poll timeout.argument = (.ready (.error errno), k')) :
    Serves k timeout (.ready (.error errno)) (s.receive k') := by
  obtain ⟨herror, hcount, hlogs⟩ := readFailure_spec errno
  rw [receive_of_failure (recv_of_ready hp)]
  refine serves_of_nothing rfl herror hcount (fun o ho => .inl (hlogs o ho)) nofun
    ⟨.error SystemError.wouldBlock, ?_⟩
  rw [hp]
  simp [PollAnswer.calls, PollAnswer.isReady, PollAnswer.datagram, Route.readDatagram_nil,
    Route.Reading.notices]

theorem serves_of_no_bytes {bytes : List UInt8}
    (hp : k.poll timeout.argument = (.ready (.ok bytes), k')) (hb : bytes.take capacity = []) :
    Serves k timeout (.ready (.ok bytes)) (s.receive k') := by
  have hread := recv_of_ready hp
  rw [Except.map, hb] at hread
  rw [receive_of_empty hread]
  refine serves_of_nothing hb ?_ nofun nofun nofun ⟨.error SystemError.wouldBlock, ?_⟩
  · rw [PollAnswer.error?, hb, Route.readDatagram_nil]
    rfl
  · rw [hp]
    simp [PollAnswer.calls, PollAnswer.isReady, PollAnswer.datagram, hb, Route.readDatagram_nil,
      Route.Reading.notices]

/-- A call that reads a datagram takes what it reports from that datagram alone. -/
theorem serves_of_bytes {bytes : List UInt8}
    (hp : k.poll timeout.argument = (.ready (.ok bytes), k')) (hb : bytes.take capacity ≠ []) :
    Serves k timeout (.ready (.ok bytes)) (s.receive k') := by
  have hnames : k'.interfaceNames = k.interfaceNames := by
    have hframe := (k.poll_frame timeout.argument).2.1
    rw [hp] at hframe
    exact hframe
  have hread := recv_of_ready hp
  rw [receive_of_bytes hread hb]
  generalize hreading : readDatagram (bytes.take capacity) = reading
  generalize hread : ({ k' with
    calls := .recv :: .poll timeout.argument :: k.calls
    arrived := .error SystemError.wouldBlock } : Kernel) = k''
  have hevents : (occurrences reading.findings k'').1.filterMap Occurrence.change? =
      k.reported (.ready (.ok bytes)) := by
    have hevent : k''.event? = k.event? := by
      rw [← hread]
      exact event?_congr hnames
    rw [change?_occurrences, hevent, Kernel.reported, PollAnswer.datagram, hreading]
    rfl
  refine ⟨hevents, ?_, ?_, ?_, fun o ho => (cases_of_mem_occurrences ho).imp_right .inl, nofun,
    .error SystemError.wouldBlock, ?_⟩
  · rw [PollAnswer.error?, hreading]
    cases reading.error <;> rfl
  · intro n hn
    cases he : reading.error with
    | none =>
        rw [he] at hn
        cases hn
        exact changes_eq_length _
    | some errno =>
        rw [he] at hn
        cases hn
  · intro ho
    -- A datagram was read, so the call neither timed out nor was interrupted.
    cases he : reading.error <;> rw [he] at ho <;> rcases ho with ho | ho <;> cases ho
  · have hcalls : (PollAnswer.ready (.ok bytes)).calls timeout = .poll timeout.argument :: .recv ::
        reading.notices.map fun n => .interfaceName n.index := by
      rw [← hreading]
      rfl
    have hnotices : reading.findings.filterMap noticeOf? = reading.notices := rfl
    rw [kernel_occurrences, hnotices, hcalls, hp, ← hread]
    simp

theorem serves_of_not_ready {a : PollAnswer} {os : List Occurrence}
    {outcome : Except MonitorError Outcome} (hp : k.poll timeout.argument = (a, k'))
    (ha : a.isReady = false) (herror : errorOf outcome = a.error?)
    (hcount : ∀ n, outcome ≠ .ok (.processed n)) (hos : os = if a.isSignal then [.signal] else []) :
    Serves k timeout a ⟨os, outcome, s, k'⟩ := by
  have hdatagram : a.datagram = [] := by
    cases a <;> first | rfl | cases ha
  have hcalls : k'.calls = .poll timeout.argument :: k.calls := by
    have hframe := (k.poll_frame timeout.argument).1
    rw [hp] at hframe
    exact hframe
  subst hos
  refine serves_of_nothing hdatagram herror (fun n hn => absurd hn (hcount n)) ?_ ?_
    ⟨k'.arrived, ?_⟩
  · intro o ho
    cases hs : a.isSignal with
    | true =>
        rw [hs] at ho
        exact .inr ⟨List.mem_singleton.mp ho, rfl⟩
    | false =>
        rw [hs] at ho
        cases ho
  · intro hs
    show Occurrence.signal ∈ (if a.isSignal then [Occurrence.signal] else [])
    rw [hs]
    exact List.mem_singleton_self _
  · rw [hp, PollAnswer.calls, ha, if_neg Bool.false_ne_true]
    show k' = { k' with calls := .poll timeout.argument :: k.calls }
    rw [← hcalls]

/-- Every call comes to what the next answer of the plan says, whatever was read before. -/
theorem serves_process (s : Subscription) (timeout : Wait) (k : Kernel) :
    Serves k timeout (k.answerAt 0) (s.process timeout k) := by
  rw [← (k.poll_spec timeout.argument).1, process]
  cases hp : k.poll timeout.argument with
  | mk a k' =>
    match a with
    | .timeout => exact serves_of_not_ready hp rfl rfl nofun rfl
    | .signal => exact serves_of_not_ready hp rfl rfl nofun rfl
    | .failure errno =>
        show Serves k timeout (.failure errno)
          (if errno = SystemError.interrupted then ⟨[], .ok .interrupted, s, k'⟩
          else ⟨[], .error (failure "poll" errno), s, k'⟩)
        have herror : (PollAnswer.failure errno).error? =
          if errno = SystemError.interrupted then none else some (failure "poll" errno) := rfl
        by_cases hint : errno = SystemError.interrupted
        · rw [if_pos hint] at herror ⊢
          exact serves_of_not_ready hp rfl herror.symm nofun rfl
        · rw [if_neg hint] at herror ⊢
          exact serves_of_not_ready hp rfl herror.symm nofun rfl
    | .ready (.error errno) => exact serves_of_read_failure hp
    | .ready (.ok bytes) =>
        by_cases hb : bytes.take capacity = []
        · exact serves_of_no_bytes hp hb
        · exact serves_of_bytes hp hb

end Calls

end

end Subscription

end AddressWatch.Linux
