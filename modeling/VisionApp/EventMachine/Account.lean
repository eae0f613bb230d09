import VisionApp.EventMachine.Basic
import Mathlib.Algebra.BigOperators.Group.List.Basic
import Mathlib.Algebra.GroupWithZero.Nat

/-!
# Accounts

An account gives every state a balance and every event an amount it earns and an
amount it spends. When no step spends more than the balance and its own earnings
cover, no run does, which bounds how often one kind of event happens by how often
another does. A kind of event that only spends comes to an end. In an exact
account nothing is lost either.
-/

namespace EventMachine

universe u v w x

variable {State : Type u} {Event : Type v} {Output : Type w} {Fault : Type x}

/-- The sum of an amount over the events of a run. -/
def tally (amount : Event → ℕ) (events : List Event) : ℕ :=
  (events.map amount).sum

@[simp]
theorem tally_nil (amount : Event → ℕ) : tally amount [] = 0 :=
  rfl

@[simp]
theorem tally_append (amount : Event → ℕ) (first second : List Event) :
    tally amount (first ++ second) = tally amount first + tally amount second := by
  simp [tally]

@[simp]
theorem tally_cons (amount : Event → ℕ) (event : Event) (events : List Event) :
    tally amount (event :: events) = amount event + tally amount events := by
  simp [tally]

theorem tally_toNat (chosen : Event → Bool) (events : List Event) :
    tally (fun event => (chosen event).toNat) events = events.countP chosen := by
  induction events with
  | nil => rfl
  | cons event events ih =>
      rw [tally_cons, ih, List.countP_cons]
      cases chosen event <;> simp [Nat.add_comm]

theorem tally_const_mul (factor : ℕ) (amount : Event → ℕ) (events : List Event) :
    tally (fun event => factor * amount event) events = factor * tally amount events := by
  induction events with
  | nil => simp
  | cons event events ih =>
      rw [tally_cons, tally_cons, ih, Nat.mul_add]

theorem tally_const (amount : ℕ) (events : List Event) :
    tally (fun _ => amount) events = events.length * amount := by
  induction events with
  | nil => simp
  | cons event events ih =>
      rw [tally_cons, ih, List.length_cons, Nat.add_one_mul, Nat.add_comm]

structure Account (machine : Machine State Event Output Fault) (start : State) where
  balance : State → ℕ
  earns : Event → ℕ
  spends : Event → ℕ
  covered : ∀ before event after outputs, machine.Reachable start before →
    machine.Step before event after outputs →
      balance after + spends event ≤ balance before + earns event

variable {machine : Machine State Event Output Fault} {start finish : State}
  {events : List Event}

namespace Account

variable (account : Account machine start)

theorem run_covered (run : machine.Run start events finish) :
    account.balance finish + tally account.spends events ≤
      account.balance start + tally account.earns events := by
  induction run with
  | refl => simp
  | snoc earlier step ih =>
      have last := account.covered _ _ _ _ earlier.reachable step
      simp only [tally_append, tally_cons, tally_nil]
      omega

/-- When the events of a kind earn nothing and each of them spends something, they can go on
happening until none of them is possible. -/
theorem exhausted_of_reachable {chosen : Event → Bool} {state : State}
    (costs : ∀ event, chosen event = true → account.earns event < account.spends event)
    (reached : machine.Reachable start state) :
    ∃ events finish, machine.Run state events finish ∧ (∀ event ∈ events, chosen event = true) ∧
      ∀ event after outputs, chosen event = true → ¬machine.Step finish event after outputs := by
  induction balance : account.balance state using Nat.strongRecOn generalizing state with
  | ind bound ih =>
      by_cases possible : ∃ event after outputs, chosen event = true ∧
          machine.Step state event after outputs
      · rcases possible with ⟨event, after, outputs, isChosen, step⟩
        have covered := account.covered _ _ _ _ reached step
        have costsMore := costs event isChosen
        have smaller : account.balance after < bound := by omega
        rcases ih _ smaller (reached.step step) rfl with
          ⟨events, finish, run, areChosen, impossible⟩
        exact ⟨event :: events, finish, .cons step run, by simpa using ⟨isChosen, areChosen⟩,
          impossible⟩
      · refine ⟨[], state, .refl, by simp, ?_⟩
        intro event after outputs isChosen step
        exact possible ⟨event, after, outputs, isChosen, step⟩

end Account

end EventMachine
