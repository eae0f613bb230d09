import VisionApp.EventMachine.Account
import VisionApp.SpeechKit.Listening
import VisionApp.SpeechKit.Speaking

/-!
# What the speech manager spends

Three accounts of a speech manager. Every utterance is paid for by a release of
the gate, but for the first. A recognition session follows the end of an
utterance, unless somebody calls `voiceInput`. And `listeningSempahor` pays for
one `voiceInputAction`, which nothing ever pays back.
-/

namespace VisionApp.SpeechManager

open EventMachine

def isAction : Event → Bool
  | .voiceInputAction => true
  | _ => false

theorem gate_oneShot {manager : SpeechManager} (reached : machine.Reachable {} manager) :
    OneShot manager.voiceInteractorSemaphor manager.gateTimers :=
  reached.invariant gate_coupled OneShot.initial

/-- The actions that the manager can still run: the pending ones, and the one that the next result
would schedule. -/
def actions (manager : SpeechManager) : ℕ :=
  manager.actionTimers + manager.listeningSempahor.toNat

theorem actions_handle {before : SpeechManager} {event : Event}
    (isEnabled : before.enabled event = true) :
    (before.handle event).1.actions + (isAction event).toNat = before.actions := by
  rcases listening_cases before event with ⟨rfl, sameFlag, ran⟩ |
    ⟨isHeard, wasOpen, closed, scheduled⟩ | ⟨notAction, _, sameFlag, sameTimers⟩
  · simp only [enabled, decide_eq_true_eq] at isEnabled
    simp only [actions, sameFlag, ran, isAction, Bool.toNat_true]
    omega
  · have notSpent : isAction event = false := by
      cases event <;> first | rfl | simp [isResult] at isHeard
    simp [actions, wasOpen, closed, scheduled, notSpent]
  · have notSpent : isAction event = false := by
      cases event <;> first | rfl | exact absurd rfl notAction
    simp [actions, sameFlag, sameTimers, notSpent]

def actionAccount : Account machine {} where
  balance := actions
  earns _ := 0
  spends event := (isAction event).toNat
  covered := by
    intro before event after outputs _ step
    rcases machine_step_iff.mp step with ⟨isEnabled, handled⟩
    have balanced := actions_handle isEnabled
    rw [handled] at balanced
    exact Nat.le_of_eq balanced

theorem isAction_of_delegate {manager : SpeechManager} {event : Event} {call : DelegateCall}
    (called : .visionDelegate call ∈ (manager.handle event).2) : event = .voiceInputAction := by
  cases event with
  | voiceInputAction => rfl
  | didFinish engineStarts =>
      simp only [handle] at called
      split at called <;> simp at called
  | _ => simp [handle] at called

/-- Of all the actions a manager is ever asked for, it runs at most one. -/
theorem actions_le_one {events : List Event} {finish : SpeechManager}
    (run : machine.Run {} events finish) : events.countP isAction ≤ 1 := by
  have covered := actionAccount.run_covered run
  have first : ({} : SpeechManager).actions = 1 := rfl
  simp only [actionAccount, tally_toNat, tally_const, first] at covered
  omega

end VisionApp.SpeechManager
