/-
  AddressWatch.Proofs.Linux.ErrorCode

  The codes of errors on a platform with a subscription. Every error is a refusal, a failed system
  call, or an error message of the kernel, and none of these has the code zero (`code_ne_zero`):
  callers that see only the code of the last error read zero as success. The number of an error
  message is the absolute value of its code, kept within 32 bits (`Reports`).
-/

import AddressWatch.Proofs.Linux.Answer
import AddressWatch.Proofs.Linux.Opening
import AddressWatch.Proofs.Monitor.Failure
import AddressWatch.Proofs.Route.ErrorMessage

namespace AddressWatch.Linux.Subscription

open Route (Frame readDatagram frames walk align OtherMessages)
open Monitor (Operation Turn Reaches Performs errorOf)

theorem code_failure_ne_zero (context : String) (errno : Int32) :
    (failure context errno).code ≠ 0 :=
  SystemError.codeOr_ne_zero _ (by decide)

section

variable [OtherMessages] {κ : Type}

theorem error?_of_process {s : Subscription} {timeout : Wait} {k : Kernel} {e : MonitorError}
    (ho : (s.process timeout k).outcome = .error e) : (k.answerAt 0).error? = some e := by
  rw [← (serves_process s timeout k).error]
  exact Monitor.errorOf_eq_some_iff.mpr ho

/-! ## Error messages -/

/-- The datagram ends, as far as it is read, with an error message, and the number is the absolute
value of its code, kept within 32 bits. -/
structure Reports (bytes : List UInt8) (errno : Int32) : Prop where
  message : ∃ first stop code, frames 0 bytes = first ++ [⟨stop, .error code⟩] ∧
    -2147483648 ≤ code ∧ code < 2147483648 ∧ code ≠ 0 ∧
    errno.toInt = min (code.natAbs : Int) 2147483647
  positive : 1 ≤ errno.toInt
  bounded : errno.toInt ≤ 2147483647

theorem reports_of_error {bytes : List UInt8} {errno : Int32}
    (hread : (readDatagram bytes).error = some errno) : Reports bytes errno := by
  obtain ⟨first, stop, code, hframes, hcode, rfl⟩ := Route.frames_of_error hread
  have hlast : (⟨stop, .error code⟩ : Frame) ∈ frames 0 bytes := by
    rw [hframes]
    exact List.mem_append_right first (List.mem_singleton_self _)
  obtain ⟨hlow, hhigh⟩ := Route.error_bounds_of_mem_frames hlast rfl
  have hnumber := Route.toInt_errorNumber code
  refine ⟨⟨first, stop, code, hframes, hlow, hhigh, hcode, hnumber⟩,
    Route.errorNumber_pos hcode, ?_⟩
  rw [hnumber]
  exact Int.min_le_right _ _

/-- A number that an error message reports is not zero. -/
theorem Reports.ne_zero {bytes : List UInt8} {errno : Int32} (hr : Reports bytes errno) :
    errno ≠ 0 := by
  rintro rfl
  exact absurd hr.positive (by decide)

/-- A call that fails with an error of the protocol has read the datagram that reports it. -/
theorem reports_of_process {s : Subscription} {timeout : Wait} {k : Kernel} {errno : Int32}
    (ho : (s.process timeout k).outcome = .error (.protocol errno)) :
    ∃ bytes, k.answerAt 0 = .ready (.ok bytes) ∧ Reports (bytes.take capacity) errno := by
  obtain ⟨bytes, hanswer, hread⟩ := PollAnswer.error_of_protocol (error?_of_process ho)
  exact ⟨bytes, hanswer, reports_of_error hread⟩

/-! ## Codes -/

theorem code_ne_zero_of_process {s : Subscription} {timeout : Wait} {k : Kernel} {e : MonitorError}
    (ho : (s.process timeout k).outcome = .error e) : e.code ≠ 0 := by
  rcases PollAnswer.error_cases (error?_of_process ho) with
    ⟨context, errno, rfl⟩ | ⟨bytes, errno, -, rfl, hread⟩
  · exact code_failure_ne_zero context errno
  · exact (reports_of_error hread).ne_zero

section Lives

variable {receiver : ChangeEvent → κ → List Action × κ} {signalled : List Action}
  {turns : List (Operation × Turn (Kernel × κ) Subscription)} {m : Monitor Subscription}
  {w : Kernel × κ}

/-- No operation of a monitor over the subscription fails with the code zero. -/
theorem code_ne_zero (hr : Reaches (host receiver signalled) turns m w) :
    ∀ turn ∈ turns, ∀ e, turn.2.error = some e → e.code ≠ 0 := by
  have hnotRunning : MonitorError.notRunning.code ≠ 0 := by decide
  have hinvalid : (16 : Int32) ≠ 0 := by decide
  refine hr.forall_error hnotRunning (fun _ => hinvalid) ?_ ?_
  · intro w e ho
    have hopen : (Subscription.open w.1).backend = .error e := ho
    obtain ⟨context, errno, rfl⟩ := eq_failure_of_open hopen
    exact code_failure_ne_zero context errno
  · intro s timeout w e ho
    have hcall : (s.process timeout w.1).outcome = .error e := ho
    exact code_ne_zero_of_process hcall

/-- An error of the protocol in a life comes from a call of the subscription. -/
theorem exists_process_of_protocol (hr : Reaches (host receiver signalled) turns m w) :
    ∀ turn ∈ turns, ∀ e, turn.2.error = some e → ∀ errno, e = .protocol errno →
      ∃ (s : Subscription) (timeout : Wait) (k : Kernel),
        (s.process timeout k).outcome = .error (.protocol errno) := by
  refine hr.forall_error nofun (fun _ => nofun) ?_ ?_
  · intro w e ho errno he
    have hopen : (Subscription.open w.1).backend = .error e := ho
    obtain ⟨context, number, rfl⟩ := eq_failure_of_open hopen
    cases he
  · rintro s timeout w e ho errno rfl
    exact ⟨s, timeout, w.1, ho⟩

/-- **Error codes.** The code of the last error is zero exactly if no operation has failed. Every
error of the protocol comes from a call that read a datagram with an error message, and its number
is the absolute value of that message's code, kept within 32 bits, and so at least one. An
acknowledgement, which is an error message with the code zero, raises none: the call goes on with
the messages behind it. -/
theorem errorCodes (hr : Reaches (host receiver signalled) turns m w) :
    (m.lastErrorCode = 0 ↔ ∀ turn ∈ turns, turn.2.error = none) ∧
    (∀ turn ∈ turns, ∀ errno, turn.2.error = some (.protocol errno) →
      ∃ (s : Subscription) (timeout : Wait) (k : Kernel) (bytes : List UInt8),
        (s.process timeout k).outcome = .error (.protocol errno) ∧
        k.answerAt 0 = .ready (.ok bytes) ∧ Reports (bytes.take capacity) errno) ∧
    (∀ (s : Subscription) (timeout : Wait) (k : Kernel) (errno : Int32),
      (s.process timeout k).outcome = .error (.protocol errno) →
        ∃ bytes, k.answerAt 0 = .ready (.ok bytes) ∧ Reports (bytes.take capacity) errno) ∧
    (∀ (s : Subscription) (timeout : Wait) (k : Kernel) (bytes : List UInt8)
      (before after : List Frame) (stop : Nat), k.answerAt 0 = .ready (.ok bytes) →
      frames 0 (bytes.take capacity) = before ++ ⟨stop, .error 0⟩ :: after →
        (s.process timeout k).events =
          (before.filterMap Frame.notice? ++
            (walk (align stop) ((bytes.take capacity).drop (align stop))).notices).filterMap
              k.event? ∧
        errorOf (s.process timeout k).outcome =
          (walk (align stop) ((bytes.take capacity).drop (align stop))).error.map .protocol) := by
  refine ⟨hr.lastErrorCode_eq_zero_iff (code_ne_zero hr), ?_,
    fun s timeout k errno ho => reports_of_process ho, ?_⟩
  · intro turn hturn errno he
    obtain ⟨s, timeout, k, ho⟩ := exists_process_of_protocol hr turn hturn _ he errno rfl
    obtain ⟨bytes, hanswer, hreports⟩ := reports_of_process ho
    exact ⟨s, timeout, k, bytes, ho, hanswer, hreports⟩
  · intro s timeout k bytes before after stop hanswer hframes
    obtain ⟨hnotices, herror⟩ := Route.readDatagram_of_acknowledgement hframes
    have hserves := serves_process s timeout k
    rw [hanswer] at hserves
    constructor
    · rw [hserves.events, ← hnotices]
      rfl
    · rw [hserves.error, ← herror]
      rfl

end Lives

end

/-- An error message with the least code of all. -/
def leastCodeReported : List UInt8 :=
  [20, 0, 0, 0, 2, 0, 0, 0, 0, 0, 0, 0, 0, 0, 0, 0, 0, 0, 0, 0x80]

section

attribute [local instance] OtherMessages.framing

/-- A socket that cannot be subscribed, for the reason with the number zero, and after it an error
message with the least code: neither failure can be taken for success. -/
theorem errorCodes_of_zero_then_least :
    let h : Host (Kernel × Unit) Subscription := host (fun _ r => ([], r)) []
    let w : Kernel × Unit :=
      ({ openings := [some ⟨.bind, 0⟩], polls := [.ready (.ok leastCodeReported)] }, ())
    let t₁ := ((Monitor.new Subscription).start h w).turn
    let t₂ := (t₁.monitor.start h t₁.world).turn
    let t₃ := (t₂.monitor.process h none t₂.world).turn
    t₁.error = some (.io "bind" (.errno 0)) ∧ t₁.monitor.lastErrorCode ≠ 0 ∧ t₂.error = none ∧
      t₃.error = some (.protocol 2147483647) ∧ t₃.monitor.lastErrorCode ≠ 0 ∧
      ∃ bytes, Reports bytes 2147483647 := by
  intro h w t₁ t₂ t₃
  have hr₁ : Reaches h [(.start, t₁)] t₁.monitor t₁.world := (Reaches.new w).perform .start
  have hr₃ : Reaches h [(.start, t₁), (.start, t₂), (.process none, t₃)] t₃.monitor t₃.world :=
    (hr₁.perform .start).perform (.process none)
  have ht₁ : t₁.error = some (.io "bind" (.errno 0)) := by decide +kernel
  have ht₃ : t₃.error = some (.protocol 2147483647) := by decide +kernel
  obtain ⟨hzero₁, -⟩ := errorCodes hr₁
  obtain ⟨hzero₃, hprotocol, -⟩ := errorCodes hr₃
  obtain ⟨s, timeout, k, bytes, -, -, hreports⟩ :=
    hprotocol (.process none, t₃) (by simp) 2147483647 ht₃
  refine ⟨ht₁, ?_, by decide +kernel, ht₃, ?_, _, hreports⟩
  · rw [Ne, hzero₁]
    intro hnone
    rw [hnone (.start, t₁) (by simp)] at ht₁
    cases ht₁
  · rw [Ne, hzero₃]
    intro hnone
    rw [hnone (.process none, t₃) (by simp)] at ht₃
    cases ht₃

end

end AddressWatch.Linux.Subscription
