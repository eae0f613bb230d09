import Mathlib.Data.Nat.Basic

/-!
# Flags reopened by a timer

A handler that should not run again for a while closes a flag and schedules a
one-shot timer, and the timer's handler reopens the flag. Such a flag and the
number of pending timers stay coupled: the flag is closed exactly while one
timer is pending, and there is never a second one.
-/

namespace EventMachine

/-- The flag is open with no timer pending, or closed with one. -/
def OneShot (isOpen : Bool) (pending : ℕ) : Prop :=
  pending = if isOpen then 0 else 1

namespace OneShot

variable {isOpen : Bool} {pending : ℕ}

theorem iff_closed : OneShot isOpen pending ↔ (isOpen = false ↔ pending = 1) ∧ pending ≤ 1 := by
  cases isOpen with
  | false => simp [OneShot]; omega
  | true => simp [OneShot]; omega

theorem initial : OneShot true 0 :=
  rfl

theorem close (coupled : OneShot true pending) : OneShot false (pending + 1) := by
  simp only [OneShot] at coupled ⊢
  simp [coupled]

/-- A handler that schedules a timer only when the flag is open leaves it closed. -/
theorem closed (coupled : OneShot isOpen pending) :
    OneShot false (pending + if isOpen then 1 else 0) := by
  cases isOpen with
  | true => exact coupled.close
  | false => exact coupled

/-- While the flag is closed, a timer is pending. -/
theorem pending_ne_zero (coupled : OneShot false pending) : pending ≠ 0 := by
  simp only [OneShot] at coupled
  simp [coupled]

theorem fire (coupled : OneShot isOpen pending) (isPending : 0 < pending) :
    OneShot true (pending - 1) := by
  have bound := (iff_closed.mp coupled).2
  simp only [OneShot]
  simp
  omega

/-- A timer that fires without reopening the flag leaves it closed for good. -/
theorem not_of_forgotten (coupled : OneShot isOpen pending) (isPending : 0 < pending) :
    ¬OneShot isOpen (pending - 1) := by
  cases isOpen with
  | false => simp [OneShot] at coupled ⊢; omega
  | true => simp [OneShot] at coupled; omega

end OneShot

end EventMachine
