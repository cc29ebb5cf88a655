/-
  AddressWatch.Proofs.Linux.Opening

  Opening a subscription. The plan of the kernel says whether it fails, at which step and with which
  number; without a failure the socket is subscribed to both groups and nothing else of the plan is
  used up.
-/

import AddressWatch.Linux.Subscription

namespace AddressWatch.Linux

/-- The system call that a step of opening is reported as. -/
def OpenStep.context : OpenStep → String
  | .socket => "socket"
  | .bind => "bind"
  | .nonBlocking => "set_non_blocking"

namespace Kernel

variable {k : Kernel}

/-- Exactly the planned step fails. -/
theorem failsAt_of_planned {f : OpenFailure} (hk : k.planned = some f) (step : OpenStep) :
    k.failsAt step = if f.step = step then some f.errno else none := by
  rw [failsAt, hk, Option.filter_some]
  by_cases hstep : f.step = step
  · rw [if_pos hstep, if_pos (decide_eq_true hstep)]
    rfl
  · rw [if_neg hstep, if_neg (mt of_decide_eq_true hstep)]
    rfl

theorem failsAt_of_unplanned (hk : k.planned = none) (step : OpenStep) : k.failsAt step = none := by
  rw [failsAt, hk]
  rfl

/-- The kernel on which a socket is being made: the next entry of the plan is what happens to it. -/
def opening (k : Kernel) : Kernel :=
  { k.record .socket with
    openings := k.openings.tail
    planned := k.openings.head?.join }

/-- The kernel on which a socket was made. -/
def withSocket (k : Kernel) : Kernel := { k.opening with openSockets := k.openSockets + 1 }

/-- The kernel on which the socket was subscribed. -/
def subscribed (groups : Nat) (k : Kernel) : Kernel := { k.record (.bind groups) with groups }

section Steps

variable {errno : Int32} (groups : Nat)

theorem socket_of_failure (hk : k.opening.failsAt .socket = some errno) :
    k.socket = (.error errno, k.opening) := by
  rw [opening] at hk ⊢
  rw [socket]
  simp only [hk]

theorem socket_of_success (hk : k.opening.failsAt .socket = none) :
    k.socket = (.ok (), k.withSocket) := by
  rw [withSocket]
  rw [opening] at hk ⊢
  rw [socket]
  simp only [hk]
  rfl

theorem bind_of_failure (hk : k.failsAt .bind = some errno) :
    k.bind groups = (.error errno, k.record (.bind groups)) := by
  have hrecord : (k.record (.bind groups)).failsAt .bind = some errno := hk
  rw [bind]
  simp only [hrecord]

theorem bind_of_success (hk : k.failsAt .bind = none) :
    k.bind groups = (.ok (), k.subscribed groups) := by
  have hrecord : (k.record (.bind groups)).failsAt .bind = none := hk
  rw [bind]
  simp only [hrecord]
  rfl

theorem setNonBlocking_of_failure (hk : k.failsAt .nonBlocking = some errno) :
    k.setNonBlocking = (.error errno, k.record .setNonBlocking) := by
  have hrecord : (k.record .setNonBlocking).failsAt .nonBlocking = some errno := hk
  rw [setNonBlocking]
  simp only [hrecord]

theorem setNonBlocking_of_success (hk : k.failsAt .nonBlocking = none) :
    k.setNonBlocking = (.ok (), k.record .setNonBlocking) := by
  have hrecord : (k.record .setNonBlocking).failsAt .nonBlocking = none := hk
  rw [setNonBlocking]
  simp only [hrecord]

end Steps

end Kernel

namespace Subscription

variable {k : Kernel}

/-- The groups that are subscribed to. -/
def groups : Nat := ipv4Group ||| ipv6Group

/-- A planned failure is reported with its step and its number. -/
theorem open_of_planned {f : OpenFailure} (hf : k.openings.head?.join = some f) :
    (Subscription.open k).backend = .error (failure f.step.context f.errno) := by
  have hfails : ∀ (k' : Kernel) (step : OpenStep), k'.planned = k.opening.planned →
      k'.failsAt step = if f.step = step then some f.errno else none :=
    fun k' step hk' => Kernel.failsAt_of_planned (hk'.trans hf) step
  have hsocket := hfails k.opening .socket rfl
  have hbind := hfails k.withSocket .bind rfl
  have hnonBlocking := hfails (k.withSocket.subscribed groups) .nonBlocking rfl
  -- The steps before the one that fails succeed.
  obtain ⟨step, errno⟩ := f
  cases step with
  | socket =>
      rw [Subscription.open, Kernel.socket_of_failure hsocket]
      rfl
  | bind =>
      rw [Subscription.open, Kernel.socket_of_success hsocket]
      dsimp only
      rw [Kernel.bind_of_failure _ hbind]
      rfl
  | nonBlocking =>
      rw [Subscription.open, Kernel.socket_of_success hsocket]
      dsimp only
      rw [Kernel.bind_of_success _ hbind]
      dsimp only
      rw [← groups, Kernel.setNonBlocking_of_failure hnonBlocking]
      rfl

/-- Without a planned failure opening succeeds, and leaves the waits of the plan as they are. -/
theorem open_of_unplanned (hf : k.openings.head?.join = none) :
    (Subscription.open k).backend = .ok ⟨[]⟩ ∧
      (Subscription.open k).world =
        (k.withSocket.subscribed groups).record .setNonBlocking := by
  have hfails : ∀ (k' : Kernel) (step : OpenStep), k'.planned = k.opening.planned →
      k'.failsAt step = none :=
    fun k' step hk' => Kernel.failsAt_of_unplanned (hk'.trans hf) step
  rw [Subscription.open, Kernel.socket_of_success (hfails k.opening .socket rfl)]
  dsimp only
  rw [Kernel.bind_of_success _ (hfails k.withSocket .bind rfl)]
  dsimp only
  rw [← groups,
    Kernel.setNonBlocking_of_success (hfails (k.withSocket.subscribed groups) .nonBlocking rfl)]
  exact ⟨rfl, rfl⟩

/-- Opening fails with a system call. -/
theorem eq_failure_of_open {e : MonitorError} (ho : (Subscription.open k).backend = .error e) :
    ∃ context errno, e = failure context errno := by
  cases hf : k.openings.head?.join with
  | none =>
      rw [(open_of_unplanned hf).1] at ho
      cases ho
  | some f =>
      rw [open_of_planned hf] at ho
      cases ho
      exact ⟨_, _, rfl⟩

end Subscription

end AddressWatch.Linux
