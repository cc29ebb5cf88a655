/-
  AddressWatch.Proofs.Windows.Balance

  What is owed to the Windows interface. The calls on record and the plan of their answers say how
  often the socket library was started and ended, and how many registrations were made and
  cancelled (`Balanced`). Each operation moves these counts by what it takes or gives back: taking a
  reference and failing takes none, opening a registration and failing leaves none, and a fetch of
  the adapters gives back what it took, whatever the answers are.
-/

import Mathlib.Data.List.Basic
import Mathlib.Tactic.SplitIfs
import AddressWatch.Windows.Registration

namespace AddressWatch.Windows

/-! ## Calls and their answers -/

namespace Call

/-- The call starts the socket library. -/
def starts : Call → Bool
  | .startup _ => true
  | _ => false

/-- The call ends the socket library. -/
def ends : Call → Bool
  | .cleanup => true
  | _ => false

/-- The call registers for notifications. -/
def registers : Call → Bool
  | .register _ => true
  | _ => false

/-- The call cancels a registration. -/
def cancels : Call → Bool
  | .cancel _ => true
  | _ => false

/-- The call asks for the table of adapters. -/
def asks : Call → Bool
  | .adapters _ _ _ _ => true
  | _ => false

end Call

/-- How many of the first `n` calls that are answered from the codes succeed; a call for which there
is no code does. -/
def successes (codes : List UInt32) (n : Nat) : Nat :=
  (List.range n).countP fun i => codes.getD i System.noError == System.noError

theorem successes_succ (codes : List UInt32) (n : Nat) :
    successes codes (n + 1) =
      successes codes n + if codes.getD n System.noError = System.noError then 1 else 0 := by
  rw [successes, List.range_succ, List.countP_append, List.countP_singleton, successes]
  simp only [beq_iff_eq]

/-- The answer to the next call is the first code behind those that were used up. -/
theorem head?_drop_getD (codes : List UInt32) (n : Nat) :
    (codes.drop n).head?.getD System.noError = codes.getD n System.noError := by
  rw [List.head?_drop, List.getD_eq_getElem?_getD]

namespace System

/-- How often the socket library was started with success, by a system that had the plan of `s₀`. -/
def startups (s₀ s : System) : Nat := successes s₀.startupCodes (s.calls.countP Call.starts)

/-- How often the socket library was ended. -/
def cleanups (s : System) : Nat := s.calls.countP Call.ends

/-- How many registrations were made with success, by a system that had the plan of `s₀`. -/
def registrations (s₀ s : System) : Nat :=
  successes s₀.registerCodes (s.calls.countP Call.registers)

/-- How often a registration was cancelled. -/
def cancellations (s : System) : Nat := s.calls.countP Call.cancels

/-- The system goes on with the plan of `s₀` behind the calls on record. `held` references are held,
`opened` registrations were made and `closed` of them cancelled; the socket library is started
exactly while a reference is held, and the queues of the registrations are numbered in order. -/
structure Balanced (s₀ s : System) (held opened closed : Nat) : Prop where
  startupCodes : s.startupCodes = s₀.startupCodes.drop (s.calls.countP Call.starts)
  registerCodes : s.registerCodes = s₀.registerCodes.drop (s.calls.countP Call.registers)
  holders : s.holders = held
  started : startups s₀ s = cleanups s + (if held = 0 then 0 else 1)
  made : registrations s₀ s = opened
  cancelled : cancellations s = closed
  nextQueue : s.nextQueue = s₀.nextQueue + opened

/-- A system without calls on record, of which no reference is held. -/
theorem balanced_fresh {s₀ : System} (hcalls : s₀.calls = []) (hholders : s₀.holders = 0) :
    Balanced s₀ s₀ 0 0 0 where
  startupCodes := by rw [hcalls]; rfl
  registerCodes := by rw [hcalls]; rfl
  holders := hholders
  started := by rw [startups, cleanups, hcalls]; rfl
  made := by rw [registrations, hcalls]; rfl
  cancelled := by rw [cancellations, hcalls]; rfl
  nextQueue := rfl

/-- Between the two systems, the adapters were asked for any number of times, notifications came or
were taken, and nothing else happened. -/
structure OnlyAsks (s s' : System) : Prop where
  startupCodes : s'.startupCodes = s.startupCodes
  registerCodes : s'.registerCodes = s.registerCodes
  holders : s'.holders = s.holders
  nextQueue : s'.nextQueue = s.nextQueue
  words : s'.words = s.words
  calls : ∃ asked, s'.calls = asked ++ s.calls ∧ ∀ c ∈ asked, c.asks = true

theorem OnlyAsks.refl (s : System) : OnlyAsks s s :=
  ⟨rfl, rfl, rfl, rfl, rfl, [], rfl, fun _ hc => by cases hc⟩

theorem OnlyAsks.trans {s s' s'' : System} (h : OnlyAsks s s') (h' : OnlyAsks s' s'') :
    OnlyAsks s s'' := by
  obtain ⟨asked, hcalls, hasked⟩ := h.calls
  obtain ⟨asked', hcalls', hasked'⟩ := h'.calls
  refine ⟨h'.startupCodes.trans h.startupCodes, h'.registerCodes.trans h.registerCodes,
    h'.holders.trans h.holders, h'.nextQueue.trans h.nextQueue, h'.words.trans h.words,
    asked' ++ asked, ?_, ?_⟩
  · rw [hcalls', hcalls, List.append_assoc]
  · intro c hc
    rcases List.mem_append.mp hc with hc | hc
    · exact hasked' c hc
    · exact hasked c hc

theorem exists_adapters_of_asks {c : Call} (hc : c.asks = true) :
    ∃ family flags buffer size, c = .adapters family flags buffer size := by
  cases c with
  | adapters family flags buffer size => exact ⟨family, flags, buffer, size, rfl⟩
  | _ => cases hc

/-- Calls of every other kind are as many as before. -/
theorem OnlyAsks.countP {s s' : System} (h : OnlyAsks s s') {p : Call → Bool}
    (hp : ∀ family flags buffer size, p (.adapters family flags buffer size) = false) :
    s'.calls.countP p = s.calls.countP p := by
  obtain ⟨asked, hcalls, hasked⟩ := h.calls
  have hnone : asked.countP p = 0 := by
    rw [List.countP_eq_zero]
    intro c hc
    obtain ⟨family, flags, buffer, size, rfl⟩ := exists_adapters_of_asks (hasked c hc)
    rw [hp]
    decide
  rw [hcalls, List.countP_append, hnone, Nat.zero_add]

theorem OnlyAsks.starts {s s' : System} (h : OnlyAsks s s') :
    s'.calls.countP Call.starts = s.calls.countP Call.starts :=
  h.countP fun _ _ _ _ => rfl

theorem OnlyAsks.ends {s s' : System} (h : OnlyAsks s s') :
    s'.calls.countP Call.ends = s.calls.countP Call.ends :=
  h.countP fun _ _ _ _ => rfl

theorem OnlyAsks.registers {s s' : System} (h : OnlyAsks s s') :
    s'.calls.countP Call.registers = s.calls.countP Call.registers :=
  h.countP fun _ _ _ _ => rfl

theorem OnlyAsks.cancels {s s' : System} (h : OnlyAsks s s') :
    s'.calls.countP Call.cancels = s.calls.countP Call.cancels :=
  h.countP fun _ _ _ _ => rfl

theorem Balanced.of_onlyAsks {s₀ s s' : System} {n k l : Nat} (hs : Balanced s₀ s n k l)
    (h : OnlyAsks s s') : Balanced s₀ s' n k l where
  startupCodes := by rw [h.startupCodes, h.starts, hs.startupCodes]
  registerCodes := by rw [h.registerCodes, h.registers, hs.registerCodes]
  holders := h.holders.trans hs.holders
  started := by
    have hstarted := hs.started
    rw [startups, cleanups] at hstarted ⊢
    rw [h.starts, h.ends, hstarted]
  made := by
    rw [registrations, h.registers]
    exact hs.made
  cancelled := h.cancels.trans hs.cancelled
  nextQueue := h.nextQueue.trans hs.nextQueue

theorem onlyAsks_setQueue (s : System) (number : Nat) (notifications : List Notification) :
    OnlyAsks s (s.setQueue number notifications) :=
  ⟨rfl, rfl, rfl, rfl, rfl, [], rfl, fun _ hc => by cases hc⟩

/-- Another table is no call. -/
theorem onlyAsks_adapters (s : System) (adapters : List Adapter) : OnlyAsks s { s with adapters } :=
  ⟨rfl, rfl, rfl, rfl, rfl, [], rfl, fun _ hc => by cases hc⟩

theorem onlyAsks_post (s : System) (n : Notification) : OnlyAsks s (s.post n) := by
  rw [post]
  cases s.registered with
  | some number => exact onlyAsks_setQueue s number _
  | none => exact .refl s

/-- The code and the size that a request for the table is answered with. -/
def tableAnswer (s : System) (size : UInt32) : UInt32 × UInt32 :=
  let code := s.tableCodes.head?.getD noError
  if code = bufferOverflow then (code, s.needed)
  else if code ≠ noError then (code, size)
  else if s.adapters.isEmpty then (noData, size)
  else if size < adapterSize then (bufferOverflow, s.needed)
  else (noError, size)

/-- The system that was asked for the table: the call is on record and its code used up. -/
def asking (s : System) (family flags : Nat) (buffer : Buffer) (size : UInt32) : System :=
  { s.record (.adapters family flags buffer size) with tableCodes := s.tableCodes.tail }

theorem adapterTable_eq (family flags : Nat) (buffer : Buffer) (size : UInt32) (s : System) :
    s.adapterTable family flags buffer size =
      ((s.tableAnswer size).1, (s.tableAnswer size).2, s.asking family flags buffer size) := by
  -- Whatever the answer is, the call is on record and one code is used up.
  rw [adapterTable, tableAnswer]
  show (if s.tableCodes.head?.getD noError = bufferOverflow then _ else
    if s.tableCodes.head?.getD noError ≠ noError then _ else
    if s.adapters.isEmpty = true then _ else if size < adapterSize then _ else _) = _
  split_ifs <;> rfl

theorem onlyAsks_adapterTable (family flags : Nat) (buffer : Buffer) (size : UInt32) (s : System) :
    OnlyAsks s (s.adapterTable family flags buffer size).2.2 := by
  rw [adapterTable_eq]
  refine ⟨rfl, rfl, rfl, rfl, rfl, [.adapters family flags buffer size], rfl, fun c hc => ?_⟩
  rw [List.mem_singleton.mp hc]
  rfl

theorem onlyAsks_askTable (s : System) : OnlyAsks s s.askTable.2 := by
  have hfirst := onlyAsks_adapterTable anyFamily tableFlags ⟨firstSize.toNat⟩ firstSize s
  rw [askTable]
  split
  rename_i code size s' hanswer
  rw [hanswer] at hfirst
  split
  · exact hfirst.trans (onlyAsks_adapterTable anyFamily tableFlags _ size s')
  · exact hfirst

/-! ## References to the socket library -/

section References

variable {s₀ s : System} {n k l : Nat}

/-- Starting the socket library is counted if it succeeds. -/
theorem Balanced.startups_startup (hs : Balanced s₀ s n k l) (version : Nat) :
    startups s₀ (s.startup version).2 =
      startups s₀ s + if (s.startup version).1 = noError then 1 else 0 := by
  have hcount : (s.startup version).2.calls.countP Call.starts =
      s.calls.countP Call.starts + 1 := List.countP_cons_of_pos rfl
  -- The calls so far have used up the codes before this one.
  have hcode : (s.startup version).1 =
      s₀.startupCodes.getD (s.calls.countP Call.starts) noError := by
    rw [startup, hs.startupCodes, head?_drop_getD]
  rw [startups, hcount, successes_succ, hcode, startups]

theorem Balanced.startupCodes_startup (hs : Balanced s₀ s n k l) (version : Nat) :
    (s.startup version).2.startupCodes =
      s₀.startupCodes.drop ((s.startup version).2.calls.countP Call.starts) := by
  have hcount : (s.startup version).2.calls.countP Call.starts =
      s.calls.countP Call.starts + 1 := List.countP_cons_of_pos rfl
  rw [hcount, ← List.tail_drop, ← hs.startupCodes]
  rfl

/-- The system after its holders were counted anew. -/
def withHolders (s : System) (holders : Nat) : System := { s with holders }

theorem acquire_of_held (hs : s.holders ≠ 0) :
    s.acquire = (.ok (), s.withHolders (s.holders + 1)) := by
  rw [acquire, if_neg hs]
  rfl

theorem acquire_of_success (hs : s.holders = 0)
    (hcode : (s.startup winsockVersion).1 = noError) :
    s.acquire = (.ok (), (s.startup winsockVersion).2.withHolders 1) := by
  rw [acquire, if_pos hs]
  simp only [hcode, if_pos]
  rw [withHolders, show (s.startup winsockVersion).2.holders = s.holders from rfl, hs]

theorem acquire_of_failure (hs : s.holders = 0)
    (hcode : (s.startup winsockVersion).1 ≠ noError) :
    s.acquire =
      (.error (s.failure (s.startup winsockVersion).1), (s.startup winsockVersion).2) := by
  rw [acquire, if_pos hs]
  simp only [hcode, if_false]
  rfl

/-- A reference is counted if others are held; otherwise the library is started for it, and the
reference is refused if that fails. -/
theorem acquire_cases (s : System) :
    (s.holders ≠ 0 ∧ s.acquire = (.ok (), s.withHolders (s.holders + 1))) ∨
    (s.holders = 0 ∧ (s.startup winsockVersion).1 = noError ∧
      s.acquire = (.ok (), (s.startup winsockVersion).2.withHolders 1)) ∨
    (s.holders = 0 ∧ (s.startup winsockVersion).1 ≠ noError ∧
      s.acquire =
        (.error (s.failure (s.startup winsockVersion).1), (s.startup winsockVersion).2)) := by
  by_cases hs : s.holders = 0
  · by_cases hcode : (s.startup winsockVersion).1 = noError
    · exact .inr (.inl ⟨hs, hcode, acquire_of_success hs hcode⟩)
    · exact .inr (.inr ⟨hs, hcode, acquire_of_failure hs hcode⟩)
  · exact .inl ⟨hs, acquire_of_held hs⟩

/-- A reference is refused only if it is the first one and the library cannot be started. -/
theorem of_acquire_error {e : WindowsError} (ha : s.acquire.1 = .error e) :
    s.holders = 0 ∧ (s.startup winsockVersion).1 ≠ noError ∧
      e = s.failure (s.startup winsockVersion).1 ∧
      s.acquire = (.error e, (s.startup winsockVersion).2) := by
  rcases acquire_cases s with ⟨-, hacquire⟩ | ⟨-, -, hacquire⟩ | ⟨hs, hcode, hacquire⟩
  · rw [hacquire] at ha
    cases ha
  · rw [hacquire] at ha
    cases ha
  · rw [hacquire] at ha
    cases ha
    exact ⟨hs, hcode, rfl, hacquire⟩

/-- The system's words for a code are the same whether a reference was taken or not. -/
theorem words_acquire (s : System) : s.acquire.2.words = s.words := by
  rcases acquire_cases s with ⟨-, hacquire⟩ | ⟨-, -, hacquire⟩ | ⟨-, -, hacquire⟩ <;>
    rw [hacquire] <;> rfl

/-- The socket library is started for the first reference. -/
theorem Balanced.acquire_ok (hs : Balanced s₀ s n k l) (ha : s.acquire.1 = .ok ()) :
    Balanced s₀ s.acquire.2 (n + 1) k l := by
  rcases acquire_cases s with ⟨hn, hacquire⟩ | ⟨hn, hcode, hacquire⟩ | ⟨-, -, hacquire⟩
  · have hstartups := hs.started
    rw [if_neg (hs.holders ▸ hn)] at hstartups
    rw [hacquire]
    refine ⟨hs.startupCodes, hs.registerCodes, congrArg (· + 1) hs.holders, ?_, hs.made,
      hs.cancelled, hs.nextQueue⟩
    rw [if_neg (Nat.succ_ne_zero n)]
    exact hstartups
  · -- One more start is counted, and one reference is held, as there was none.
    have hzero : n = 0 := hs.holders.symm.trans hn
    have hstartups := hs.startups_startup winsockVersion
    rw [if_pos hcode, hs.started, hzero] at hstartups
    rw [hacquire, hzero]
    exact ⟨hs.startupCodes_startup _, hs.registerCodes, rfl, hstartups, hs.made, hs.cancelled,
      hs.nextQueue⟩
  · rw [hacquire] at ha
    cases ha

/-- A reference that could not be taken leaves the counts as they were. -/
theorem Balanced.acquire_error {e : WindowsError} (hs : Balanced s₀ s n k l)
    (ha : s.acquire.1 = .error e) : Balanced s₀ s.acquire.2 n k l := by
  obtain ⟨-, hcode, -, hacquire⟩ := of_acquire_error ha
  have hstartups := hs.startups_startup winsockVersion
  rw [if_neg hcode, Nat.add_zero, hs.started] at hstartups
  rw [hacquire]
  exact ⟨hs.startupCodes_startup _, hs.registerCodes, hs.holders, hstartups, hs.made,
    hs.cancelled, hs.nextQueue⟩

theorem release_of_last (hs : s.holders - 1 = 0) : s.release = (s.withHolders 0).cleanup := by
  rw [release]
  simp only [hs, if_pos]
  rfl

theorem release_of_shared (hs : s.holders - 1 ≠ 0) :
    s.release = s.withHolders (s.holders - 1) := by
  rw [release]
  simp only [hs, if_false]
  rfl

/-- Giving back the last reference ends the library, and giving back any other makes no call. -/
theorem calls_release (s : System) :
    s.release.calls = if s.holders - 1 = 0 then .cleanup :: s.calls else s.calls := by
  split
  · next hs =>
      rw [release_of_last hs]
      rfl
  · next hs =>
      rw [release_of_shared hs]
      rfl

theorem holders_release (s : System) : s.release.holders = s.holders - 1 := by
  by_cases hs : s.holders - 1 = 0
  · rw [release_of_last hs, hs]
    rfl
  · rw [release_of_shared hs]
    rfl

/-- The socket library is ended with the last reference. -/
theorem Balanced.release (hs : Balanced s₀ s (n + 1) k l) : Balanced s₀ s.release n k l := by
  have hholders : s.holders - 1 = n := by
    rw [hs.holders]
    rfl
  have hstarted := hs.started
  rw [if_neg (Nat.succ_ne_zero n)] at hstarted
  -- The last reference ends the library; any other is only counted.
  by_cases hn : n = 0
  · have hends : cleanups (s.withHolders 0).cleanup = cleanups s + 1 := List.countP_cons_of_pos rfl
    rw [release_of_last (hholders.trans hn), hn]
    refine ⟨hs.startupCodes, hs.registerCodes, rfl, ?_, hs.made, hs.cancelled, hs.nextQueue⟩
    rw [hends]
    exact hstarted
  · rw [release_of_shared (hholders.symm ▸ hn), hholders]
    refine ⟨hs.startupCodes, hs.registerCodes, rfl, ?_, hs.made, hs.cancelled, hs.nextQueue⟩
    rw [if_neg hn]
    exact hstarted

end References

/-! ## Registering and cancelling -/

section Registrations

variable {s₀ s : System} {n k l : Nat}

/-- The system that was asked for a registration: the call is on record and its code used up. -/
def registering (s : System) (family : Nat) : System :=
  { s.record (.register family) with registerCodes := s.registerCodes.tail }

theorem register_of_success (hcode : s.registerCodes.head?.getD noError = noError) (family : Nat) :
    s.register family =
      (.ok s.nextQueue,
        { s.registering family with
          registered := some s.nextQueue
          queues := (s.nextQueue, []) :: s.queues
          nextQueue := s.nextQueue + 1 }) := by
  rw [register]
  simp only [hcode, if_pos]
  rfl

theorem register_of_failure (hcode : s.registerCodes.head?.getD noError ≠ noError) (family : Nat) :
    s.register family =
      (.error (s.registerCodes.head?.getD noError), s.registering family) := by
  rw [register]
  simp only [hcode, if_false]
  rfl

/-- A registration is counted if its call succeeds. -/
theorem Balanced.made_registering (hs : Balanced s₀ s n k l) (family : Nat) :
    registrations s₀ (s.registering family) =
      k + if s.registerCodes.head?.getD noError = noError then 1 else 0 := by
  have hcount : (s.registering family).calls.countP Call.registers =
      s.calls.countP Call.registers + 1 := List.countP_cons_of_pos rfl
  rw [registrations, hcount, successes_succ, hs.registerCodes, head?_drop_getD, ← hs.made,
    registrations]

theorem Balanced.registerCodes_registering (hs : Balanced s₀ s n k l) (family : Nat) :
    (s.registering family).registerCodes =
      s₀.registerCodes.drop ((s.registering family).calls.countP Call.registers) := by
  have hcount : (s.registering family).calls.countP Call.registers =
      s.calls.countP Call.registers + 1 := List.countP_cons_of_pos rfl
  rw [hcount, ← List.tail_drop, ← hs.registerCodes]
  rfl

/-- The queues of registrations are numbered in the order in which these are made. -/
theorem Balanced.register_ok {family queue : Nat} (hs : Balanced s₀ s n k l)
    (hr : (s.register family).1 = .ok queue) :
    queue = s₀.nextQueue + k ∧ Balanced s₀ (s.register family).2 n (k + 1) l := by
  by_cases hcode : s.registerCodes.head?.getD noError = noError
  · have hmade := hs.made_registering family
    rw [if_pos hcode] at hmade
    rw [register_of_success hcode family] at hr ⊢
    refine ⟨(Except.ok.inj hr).symm.trans hs.nextQueue, ?_⟩
    exact ⟨hs.startupCodes, hs.registerCodes_registering family, hs.holders, hs.started, hmade,
      hs.cancelled, congrArg (· + 1) hs.nextQueue⟩
  · rw [register_of_failure hcode family] at hr
    cases hr

theorem Balanced.register_error {family : Nat} {code : UInt32} (hs : Balanced s₀ s n k l)
    (hr : (s.register family).1 = .error code) : Balanced s₀ (s.register family).2 n k l := by
  by_cases hcode : s.registerCodes.head?.getD noError = noError
  · rw [register_of_success hcode family] at hr
    cases hr
  · have hmade := hs.made_registering family
    rw [if_neg hcode, Nat.add_zero] at hmade
    rw [register_of_failure hcode family]
    exact ⟨hs.startupCodes, hs.registerCodes_registering family, hs.holders, hs.started, hmade,
      hs.cancelled, hs.nextQueue⟩

theorem Balanced.cancel (hs : Balanced s₀ s n k l) : Balanced s₀ s.cancel n k (l + 1) where
  startupCodes := hs.startupCodes
  registerCodes := hs.registerCodes
  holders := hs.holders
  started := hs.started
  made := hs.made
  cancelled := by
    have hcount : cancellations s.cancel = cancellations s + 1 := List.countP_cons_of_pos rfl
    rw [hcount, hs.cancelled]
  nextQueue := hs.nextQueue

end Registrations

/-! ## Fetching the adapters -/

section Fetching

variable {s₀ s : System} {n k l : Nat}

theorem fetchAdapters_of_error {e : WindowsError} (ha : s.acquire.1 = .error e) :
    s.fetchAdapters = (.error (.windows e), s.acquire.2) := by
  have hacquire : s.acquire = (.error e, s.acquire.2) := Prod.ext ha rfl
  rw [fetchAdapters, hacquire]

/-- What the system says of a code does not change while the table is asked for. -/
theorem failure_askTable (s : System) (code : UInt32) :
    s.acquire.2.askTable.2.failure code = s.failure code := by
  have hwords : s.acquire.2.askTable.2.words = s.words :=
    (onlyAsks_askTable _).words.trans (words_acquire s)
  rw [failure, failure, hwords]

/-- The last code decides whether there are adapters. The reference that is held meanwhile is given
back, whether there are or not. -/
theorem fetchAdapters_of_ok (ha : s.acquire.1 = .ok ()) :
    s.fetchAdapters =
      (if s.acquire.2.askTable.1 = noError then
          .ok (s.acquire.2.askTable.2.adapters.filterMap Adapter.entry?)
        else .error (.windows (s.failure s.acquire.2.askTable.1)),
        s.acquire.2.askTable.2.release) := by
  have hacquire : s.acquire = (.ok (), s.acquire.2) := Prod.ext ha rfl
  rw [← failure_askTable, fetchAdapters, hacquire]
  simp only
  generalize s.acquire.2.askTable = answer
  obtain ⟨code, s'⟩ := answer
  by_cases hcode : code = noError
  · simp only [if_pos hcode]
  · simp only [if_neg hcode]

/-- A fetch fails with a code other than that of success: either the socket library could not be
started or the last answer for the table was a failure. -/
theorem exists_code_of_fetchAdapters {e : FetchError} (he : s.fetchAdapters.1 = .error e) :
    ∃ code, code ≠ noError ∧ e = .windows (s.failure code) := by
  cases ha : s.acquire.1 with
  | error e' =>
      obtain ⟨-, hcode, hfailure, -⟩ := of_acquire_error ha
      rw [fetchAdapters_of_error ha] at he
      refine ⟨_, hcode, ?_⟩
      rw [← hfailure]
      exact (Except.error.inj he).symm
  | ok _ =>
      rw [fetchAdapters_of_ok ha] at he
      by_cases hcode : s.acquire.2.askTable.1 = noError
      · simp only [if_pos hcode] at he
        cases he
      · simp only [if_neg hcode] at he
        exact ⟨_, hcode, (Except.error.inj he).symm⟩

/-- A fetch gives back what it took, whatever the answers are. -/
theorem Balanced.fetchAdapters (hs : Balanced s₀ s n k l) :
    Balanced s₀ s.fetchAdapters.2 n k l := by
  cases ha : s.acquire.1 with
  | error e =>
      rw [fetchAdapters_of_error ha]
      exact hs.acquire_error ha
  | ok _ =>
      rw [fetchAdapters_of_ok ha]
      exact ((hs.acquire_ok ha).of_onlyAsks (onlyAsks_askTable _)).release

/-- While a reference is held, a fetch neither starts nor ends the socket library. -/
theorem onlyAsks_fetchAdapters (hs : s.holders ≠ 0) : OnlyAsks s s.fetchAdapters.2 := by
  -- One reference more while the table is asked for, and one less after it; neither is the first.
  have hacquire := acquire_of_held hs
  have hasked := onlyAsks_askTable (s.withHolders (s.holders + 1))
  have hholders : (s.withHolders (s.holders + 1)).askTable.2.holders - 1 = s.holders := by
    rw [hasked.holders]
    rfl
  rw [fetchAdapters_of_ok (by rw [hacquire]), hacquire,
    release_of_shared (hholders.symm ▸ hs), hholders]
  exact ⟨hasked.startupCodes, hasked.registerCodes, rfl, hasked.nextQueue, hasked.words,
    hasked.calls⟩

end Fetching

end System

/-! ## Opening and closing a registration -/

namespace Registration

variable {s₀ s : System} {n k l : Nat}

theorem open_of_acquire_error {e : WindowsError} (ha : s.acquire.1 = .error e) :
    Registration.open s = ⟨[], .error (.windows e), s.acquire.2⟩ := by
  have hacquire : s.acquire = (.error e, s.acquire.2) := Prod.ext ha rfl
  rw [Registration.open, hacquire]

theorem open_of_register_error {code : UInt32} (ha : s.acquire.1 = .ok ())
    (hr : (s.acquire.2.register anyFamily).1 = .error code) :
    Registration.open s =
      ⟨[], .error (.windows ((s.acquire.2.register anyFamily).2.failure code)),
        (s.acquire.2.register anyFamily).2.release⟩ := by
  have hacquire : s.acquire = (.ok (), s.acquire.2) := Prod.ext ha rfl
  have hregister : s.acquire.2.register anyFamily =
      (.error code, (s.acquire.2.register anyFamily).2) := Prod.ext hr rfl
  rw [Registration.open, hacquire]
  simp only
  rw [hregister]

theorem open_of_register_ok {queue : Nat} (ha : s.acquire.1 = .ok ())
    (hr : (s.acquire.2.register anyFamily).1 = .ok queue) :
    Registration.open s = ⟨[], .ok ⟨queue⟩, (s.acquire.2.register anyFamily).2⟩ := by
  have hacquire : s.acquire = (.ok (), s.acquire.2) := Prod.ext ha rfl
  have hregister : s.acquire.2.register anyFamily =
      (.ok queue, (s.acquire.2.register anyFamily).2) := Prod.ext hr rfl
  rw [Registration.open, hacquire]
  simp only
  rw [hregister]

/-- An opened registration holds a reference, and its queue is the next one. -/
theorem balanced_open_ok {r : Registration} (hs : System.Balanced s₀ s n k l)
    (ho : (Registration.open s).backend = .ok r) :
    r = ⟨s₀.nextQueue + k⟩ ∧ System.Balanced s₀ (Registration.open s).world (n + 1) (k + 1) l := by
  cases ha : s.acquire.1 with
  | error e =>
      rw [open_of_acquire_error ha] at ho
      cases ho
  | ok _ =>
      have hheld := hs.acquire_ok ha
      cases hr : (s.acquire.2.register anyFamily).1 with
      | error code =>
          rw [open_of_register_error ha hr] at ho
          cases ho
      | ok queue =>
          obtain ⟨hqueue, hmade⟩ := hheld.register_ok hr
          rw [open_of_register_ok ha hr] at ho ⊢
          refine ⟨?_, hmade⟩
          rw [← hqueue]
          exact (Except.ok.inj ho).symm

/-- A registration that could not be opened leaves nothing behind, wherever it failed. -/
theorem balanced_open_error {e : MonitorError} (hs : System.Balanced s₀ s n k l)
    (ho : (Registration.open s).backend = .error e) :
    System.Balanced s₀ (Registration.open s).world n k l := by
  -- Without the library nothing was taken; without the registration the reference goes back.
  cases ha : s.acquire.1 with
  | error e =>
      rw [open_of_acquire_error ha]
      exact hs.acquire_error ha
  | ok _ =>
      have hheld := hs.acquire_ok ha
      cases hr : (s.acquire.2.register anyFamily).1 with
      | error code =>
          rw [open_of_register_error ha hr]
          exact (hheld.register_error hr).release
      | ok queue =>
          rw [open_of_register_ok ha hr] at ho
          cases ho

/-- Closing cancels the registration and gives its reference back. -/
theorem balanced_close (r : Registration) (hs : System.Balanced s₀ s (n + 1) k l) :
    System.Balanced s₀ (r.close s) n k (l + 1) :=
  hs.cancel.release

theorem backend_process (r : Registration) (timeout : Wait) (s : System) :
    (r.process timeout s).backend = r := by
  rw [process]
  split
  · rfl
  · split <;> rfl

/-- A call of an open registration only asks for the adapters. -/
theorem onlyAsks_process (r : Registration) (timeout : Wait) (hs : s.holders ≠ 0) :
    System.OnlyAsks s (r.process timeout s).world := by
  have htaken := System.onlyAsks_setQueue s r.queue []
  have hfetched : System.OnlyAsks (s.setQueue r.queue []) (s.setQueue r.queue []).fetchAdapters.2 :=
    System.onlyAsks_fetchAdapters hs
  rw [process]
  -- A call that finds nothing queued ends before the adapters are asked for.
  split
  · exact .refl s
  · split
    · rename_i h
      rw [h] at hfetched
      exact htaken.trans hfetched
    · rename_i h
      rw [h] at hfetched
      exact htaken.trans hfetched

end Registration

end AddressWatch.Windows
