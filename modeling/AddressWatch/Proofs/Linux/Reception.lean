/-
  AddressWatch.Proofs.Linux.Reception

  What the subscription reports of a datagram: for each notice in it whose interface has a name,
  one event with that name (`receive_arriving`). A datagram that is longer than the buffer is cut,
  and what is reported of it is the beginning of what is reported of the whole
  (`truncation`).
-/

import AddressWatch.Linux.Subscription
import AddressWatch.Proofs.Monitor.Operation
import AddressWatch.Proofs.Route.Truncation

namespace AddressWatch.Linux

open Route (Notice Finding readDatagram frames Frame OtherMessages)

/-! ## From notices to events -/

/-- The event of a notice, if its interface has a name. -/
def Kernel.event? (k : Kernel) (n : Notice) : Option ChangeEvent :=
  (k.interfaceName? n.index).1.map fun name => ⟨Unix.nameText name, n.address, n.kind⟩

/-- The notice of a finding. -/
def noticeOf? : Finding → Option Notice
  | .notice n => some n
  | _ => none

namespace Subscription

/-- Looking up a name changes no name. -/
theorem occurrence_names (f : Finding) (k : Kernel) :
    (occurrence f k).2.interfaceNames = k.interfaceNames := by
  cases f with
  | notice n =>
      rw [occurrence]
      cases hn : (k.interfaceName? n.index) with
      | mk name k' =>
          have hk : k' = k.record (.interfaceName n.index) := (congrArg Prod.snd hn).symm
          cases name <;> rw [hk] <;> rfl
  | withoutAddress => rfl
  | unreadable offset => rfl

/-- The events of notices depend on the names of the interfaces alone. -/
theorem event?_congr {k k' : Kernel} (hk : k'.interfaceNames = k.interfaceNames) :
    k'.event? = k.event? := by
  funext n
  rw [Kernel.event?, Kernel.event?, Kernel.interfaceName?, Kernel.interfaceName?, hk]

/-- A finding is reported exactly if it is a notice whose interface has a name. -/
theorem change?_occurrence (f : Finding) (k : Kernel) :
    (occurrence f k).1.change? = (noticeOf? f).bind k.event? := by
  cases f with
  | notice n =>
      show (occurrence (.notice n) k).1.change? = k.event? n
      rw [occurrence, Kernel.event?]
      cases (k.interfaceName? n.index) with
      | mk name k' => cases name <;> rfl
  | withoutAddress => rfl
  | unreadable offset => rfl

/-- What is reported of findings are the events of the notices among them. -/
theorem change?_occurrences (fs : List Finding) (k : Kernel) :
    (occurrences fs k).1.filterMap Occurrence.change? =
      (fs.filterMap noticeOf?).filterMap k.event? := by
  induction fs generalizing k with
  | nil => rfl
  | cons f rest ih =>
      -- Every lookup goes on record, but the names that answer it stay the same.
      have hevent : (occurrence f k).2.event? = k.event? := event?_congr (occurrence_names f k)
      show ((occurrence f k).1 :: (occurrences rest (occurrence f k).2).1).filterMap _ = _
      rw [List.filterMap_cons, change?_occurrence, ih, hevent, List.filterMap_cons]
      cases noticeOf? f with
      | none => rfl
      | some n =>
          rw [List.filterMap_cons]
          rfl

/-! ## Reading a datagram -/

/-- What a datagram comes to, by the error in it. -/
def outcomeOf (error : Option Int32) (os : List Occurrence) : Except MonitorError Outcome :=
  match error with
  | some errno => .error (.protocol errno)
  | none => .ok (.processed (changes os))

/-- The kernel with a datagram that can be read. -/
def arriving (k : Kernel) (datagram : List UInt8) : Kernel := { k with arrived := .ok datagram }

section

variable [OtherMessages] {s : Subscription} {k k' : Kernel}

theorem receive_of_failure {errno : Int32} (hr : k.recv capacity = (.error errno, k')) :
    s.receive k = ⟨(readFailure errno).1, (readFailure errno).2, ⟨[]⟩, k'⟩ := by
  have hr' : k.recv (capacity - List.length ([] : List UInt8)) = (.error errno, k') := hr
  simp only [receive, hr']

theorem receive_of_empty (hr : k.recv capacity = (.ok [], k')) :
    s.receive k = ⟨[], .ok .timedOut, ⟨[]⟩, k'⟩ := by
  have hr' : k.recv (capacity - List.length ([] : List UInt8)) = (.ok [], k') := hr
  simp only [receive, hr']
  rfl

/-- A read takes its occurrences from the datagram alone: the buffer holds nothing else. -/
theorem receive_of_bytes {bytes : List UInt8} (hr : k.recv capacity = (.ok bytes, k'))
    (hne : bytes ≠ []) :
    s.receive k =
      ⟨(occurrences (readDatagram bytes).findings k').1,
        outcomeOf (readDatagram bytes).error (occurrences (readDatagram bytes).findings k').1,
        ⟨bytes⟩, (occurrences (readDatagram bytes).findings k').2⟩ := by
  -- The buffer is cleared first, so that all of its capacity is there for the datagram.
  have hr' : k.recv (capacity - List.length ([] : List UInt8)) = (.ok bytes, k') := hr
  have hempty : bytes.isEmpty = false := List.isEmpty_eq_false_iff.mpr hne
  simp only [receive, hr', hempty, List.nil_append]
  cases he : (readDatagram bytes).error with
  | none => simp [outcomeOf]
  | some errno => simp [outcomeOf]

/-- What a read reports: the events of the notices in the part of the datagram that fits the
buffer, and no error but one in that part. -/
theorem receive_arriving (s : Subscription) (k : Kernel) (datagram : List UInt8) :
    (s.receive (arriving k datagram)).events =
        (readDatagram (datagram.take capacity)).notices.filterMap k.event? ∧
      ∀ e, (s.receive (arriving k datagram)).outcome = .error e →
        ∃ errno, (readDatagram (datagram.take capacity)).error = some errno ∧
          e = .protocol errno := by
  obtain ⟨k', hr, hnames⟩ : ∃ k', (arriving k datagram).recv capacity =
      (.ok (datagram.take capacity), k') ∧ k'.interfaceNames = k.interfaceNames :=
    ⟨_, rfl, rfl⟩
  have hevent : k'.event? = k.event? := event?_congr hnames
  -- No bytes count as no datagram; nothing would be found in them either.
  by_cases hne : datagram.take capacity = []
  · rw [hne] at hr ⊢
    rw [receive_of_empty hr, Route.readDatagram_nil]
    refine ⟨rfl, ?_⟩
    intro e he
    cases he
  · rw [receive_of_bytes hr hne]
    refine ⟨?_, ?_⟩
    · show (occurrences _ k').1.filterMap Occurrence.change? = _
      rw [change?_occurrences, hevent]
      rfl
    · intro e he
      cases herror : (readDatagram (datagram.take capacity)).error with
      | none =>
          rw [herror] at he
          cases he
      | some errno =>
          rw [herror] at he
          cases he
          exact ⟨errno, rfl, rfl⟩

/-! ## Cut datagrams -/

/-- **Truncation.** The notices of a datagram are those of its frames, and the notices in its first
`k` bytes are those of the frames whose declared length ends within them; they come first among its
notices, and an error in them is the error of the whole. So what a read reports of a datagram, which
it cuts to its buffer, comes first among the events of the whole datagram, and it fails only with
the error of the whole. -/
theorem truncation (datagram : List UInt8) (k : Nat) :
    (readDatagram datagram).notices = (frames 0 datagram).filterMap Frame.notice? ∧
      (readDatagram (datagram.take k)).notices =
        ((frames 0 datagram).filter (fun f => f.stop ≤ k)).filterMap Frame.notice? ∧
      (readDatagram (datagram.take k)).notices <+: (readDatagram datagram).notices ∧
      (∀ errno, (readDatagram (datagram.take k)).error = some errno →
        (readDatagram datagram).error = some errno) ∧
      ∀ (s : Subscription) (kernel : Kernel),
        (s.receive (arriving kernel datagram)).events <+:
            (readDatagram datagram).notices.filterMap kernel.event? ∧
          ∀ e, (s.receive (arriving kernel datagram)).outcome = .error e →
            ∃ errno, (readDatagram datagram).error = some errno ∧ e = .protocol errno := by
  have hnotices : ∀ k, (readDatagram (datagram.take k)).notices <+:
      (readDatagram datagram).notices := by
    intro k
    rw [readDatagram, readDatagram, Route.notices_walk, Route.notices_walk]
    exact (Route.frames_take_prefix 0 datagram k).filterMap Frame.notice?
  have herror : ∀ k errno, (readDatagram (datagram.take k)).error = some errno →
      (readDatagram datagram).error = some errno := by
    intro k errno he
    rw [readDatagram, Route.error_walk] at he ⊢
    exact (Route.frames_take_prefix 0 datagram k).findSome?_eq_some he
  refine ⟨Route.notices_walk 0 datagram, ?_, hnotices k, herror k, ?_⟩
  · rw [readDatagram, Route.notices_walk, Route.frames_take, Nat.zero_add]
  · intro s kernel
    obtain ⟨hevents, houtcome⟩ := receive_arriving s kernel datagram
    refine ⟨?_, ?_⟩
    · rw [hevents]
      exact (hnotices capacity).filterMap kernel.event?
    · intro e he
      obtain ⟨errno, hcut, hprotocol⟩ := houtcome e he
      exact ⟨errno, herror capacity errno hcut, hprotocol⟩

end

end Subscription

end AddressWatch.Linux
