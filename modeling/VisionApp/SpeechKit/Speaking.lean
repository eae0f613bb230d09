import VisionApp.EventMachine.OneShot
import VisionApp.SpeechKit.SpeechManager

/-!
# What a step makes the manager say

Every step makes at most one `voiceOutput` call on the manager. The call is
accepted when the gate `voiceInteractorSemaphor` is open; otherwise it has no
effect at all. These are the only ways in which the queue of the synthesizer
and `currentSpeechCommad` change, apart from utterances that end.
-/

namespace VisionApp.SpeechManager

open EventMachine

/-- The `voiceOutput` call that handling an event makes. -/
def offered (before : SpeechManager) : Event → Option (String × VoiceCommand)
  | .voiceOutput message commandType => some (message, commandType)
  | .namePromptBlock => some (namePrompt, .voiceCommandLocationName)
  | .voiceInputAction =>
      if before.currentSpeechCommad = .voiceCommandLocationName then
        some (placemarkPrompt, .voiceCommandLocatoiPlacemark)
      else none
  | _ => none

/-- The same call, if the gate lets it through. -/
def accepted (before : SpeechManager) (event : Event) : Option (String × VoiceCommand) :=
  if before.voiceInteractorSemaphor then before.offered event else none

def isEnd : Event → Bool
  | .didFinish _ => true
  | _ => false

/-- The part of the manager that speaks. -/
structure Speaking where
  synthesizer : List String
  currentSpeechCommad : VoiceCommand
  voiceInteractorSemaphor : Bool
  gateTimers : ℕ

def speaking (manager : SpeechManager) : Speaking where
  synthesizer := manager.synthesizer
  currentSpeechCommad := manager.currentSpeechCommad
  voiceInteractorSemaphor := manager.voiceInteractorSemaphor
  gateTimers := manager.gateTimers

namespace Speaking

/-- An utterance that is accepted closes the gate. -/
def accept (speaking : Speaking) : Option (String × VoiceCommand) → Speaking
  | some (message, commandType) =>
      { synthesizer := speaking.synthesizer ++ [message]
        currentSpeechCommad := commandType
        voiceInteractorSemaphor := false
        gateTimers := speaking.gateTimers + 1 }
  | none => speaking

/-- The end of an utterance, and of the 20 s. -/
def elapse (speaking : Speaking) : Event → Speaking
  | .didFinish _ => { speaking with synthesizer := speaking.synthesizer.tail }
  | .gateTimer =>
      { speaking with
        voiceInteractorSemaphor := true
        gateTimers := speaking.gateTimers - 1 }
  | _ => speaking

end Speaking

theorem voiceOutput_of_closed {manager : SpeechManager}
    (closed : manager.voiceInteractorSemaphor = false) (message : String)
    (commandType : VoiceCommand) : manager.voiceOutput message commandType = manager := by
  simp [voiceOutput, closed]

theorem speaking_voiceOutput (manager : SpeechManager) (message : String)
    (commandType : VoiceCommand) :
    (manager.voiceOutput message commandType).speaking =
      manager.speaking.accept
        (if manager.voiceInteractorSemaphor then some (message, commandType) else none) := by
  cases gate : manager.voiceInteractorSemaphor with
  | false =>
      rw [voiceOutput_of_closed gate]
      rfl
  | true =>
      simp only [voiceOutput, gate, if_true]
      rfl

theorem speaking_voiceInputAction (manager : SpeechManager) :
    manager.voiceInputAction.1.speaking =
      manager.speaking.accept (manager.accepted .voiceInputAction) := by
  have silent (other : manager.currentSpeechCommad ≠ .voiceCommandLocationName) :
      manager.accepted .voiceInputAction = none := by
    simp [accepted, offered, other]
  simp only [voiceInputAction]
  split
  · rename_i command
    rw [silent (by simp [command])]
    rfl
  · rename_i command
    simp only [accepted, offered, if_pos command]
    exact speaking_voiceOutput _ placemarkPrompt .voiceCommandLocatoiPlacemark
  · rename_i command
    rw [silent (by simp [command])]
    rfl
  · rename_i command
    rw [silent (by simp [command])]
    rfl

theorem speaking_resultHandler (manager : SpeechManager) (result : Option String)
    (error : Bool) : (manager.resultHandler result error).speaking = manager.speaking := by
  cases result with
  | none =>
      cases error with
      | false => rfl
      | true => rfl
  | some text =>
      cases semaphore : manager.listeningSempahor with
      | false => cases error <;> simp [resultHandler, speaking, semaphore]
      | true => cases error <;> simp [resultHandler, speaking, semaphore]

theorem sessions_voiceOutput (manager : SpeechManager) (message : String)
    (commandType : VoiceCommand) :
    (manager.voiceOutput message commandType).sessions = manager.sessions := by
  rw [voiceOutput_eq]

theorem sessions_resultHandler (manager : SpeechManager) (result : Option String)
    (error : Bool) : (manager.resultHandler result error).sessions = manager.sessions := by
  cases result with
  | none =>
      cases error with
      | false => rfl
      | true => rfl
  | some text =>
      cases semaphore : manager.listeningSempahor with
      | false => cases error <;> simp [resultHandler, semaphore]
      | true => cases error <;> simp [resultHandler, semaphore]

/-- What a step does to the speaking part: time passes, and then at most one call is accepted. -/
theorem speaking_handle (before : SpeechManager) (event : Event) :
    (before.handle event).1.speaking =
      (before.speaking.elapse event).accept (before.accepted event) := by
  cases event with
  | voiceOutput message commandType => exact speaking_voiceOutput before message commandType
  | namePromptBlock => exact speaking_voiceOutput _ namePrompt .voiceCommandLocationName
  | voiceInputAction => exact speaking_voiceInputAction _
  | recognition task result error =>
      simp only [handle, accepted, offered, ite_self]
      exact speaking_resultHandler before result error
  | didFinish engineStarts =>
      simp only [handle, didFinish, accepted, offered, ite_self]
      split
      · rfl
      · rfl
  | _ =>
      simp only [accepted, offered, ite_self]
      rfl

/-- The queue loses an utterance that ends and gains the one that is accepted. -/
theorem synthesizer_handle (before : SpeechManager) (event : Event) :
    (before.handle event).1.synthesizer =
      (if isEnd event then before.synthesizer.tail else before.synthesizer) ++
        ((before.accepted event).map Prod.fst).toList := by
  have queue : (before.handle event).1.synthesizer =
      ((before.speaking.elapse event).accept (before.accepted event)).synthesizer :=
    congrArg Speaking.synthesizer (speaking_handle before event)
  have elapsed : (before.speaking.elapse event).synthesizer =
      if isEnd event then before.synthesizer.tail else before.synthesizer := by
    cases event <;> rfl
  rw [queue, ← elapsed]
  cases before.accepted event with
  | none => simp [Speaking.accept]
  | some call => simp [Speaking.accept]

theorem currentSpeechCommad_handle (before : SpeechManager) (event : Event) :
    (before.handle event).1.currentSpeechCommad =
      ((before.accepted event).map Prod.snd).getD before.currentSpeechCommad := by
  have command : (before.handle event).1.currentSpeechCommad =
      ((before.speaking.elapse event).accept (before.accepted event)).currentSpeechCommad :=
    congrArg Speaking.currentSpeechCommad (speaking_handle before event)
  have elapsed : (before.speaking.elapse event).currentSpeechCommad =
      before.currentSpeechCommad := by
    cases event <;> rfl
  rw [command, ← elapsed]
  cases before.accepted event with
  | none => rfl
  | some call => rfl

theorem sessions_handle (before : SpeechManager) (event : Event) :
    (before.handle event).1.sessions =
      match event with
      | .voiceInput _ => before.sessions + 1
      | .didFinish _ =>
          if before.currentSpeechCommad ≠ .voiceCommandInfo then before.sessions + 1
          else before.sessions
      | _ => before.sessions := by
  cases event with
  | voiceOutput message commandType => exact sessions_voiceOutput before message commandType
  | namePromptBlock => exact sessions_voiceOutput _ namePrompt .voiceCommandLocationName
  | voiceInputAction =>
      simp only [handle, voiceInputAction]
      split
      · rfl
      · exact sessions_voiceOutput _ placemarkPrompt .voiceCommandLocatoiPlacemark
      · rfl
      · rfl
  | didFinish engineStarts =>
      simp only [handle, didFinish]
      split
      · rfl
      · rfl
  | recognition task result error => exact sessions_resultHandler before result error
  | _ => rfl

/-- No step breaks the coupling of the gate and its 20 s timer. -/
theorem gate_coupled : machine.Preserved (fun manager =>
    OneShot manager.voiceInteractorSemaphor manager.gateTimers) := by
  intro before event after outputs coupled step
  rcases machine_step_iff.mp step with ⟨isEnabled, handled⟩
  have reached : after.speaking =
      (before.speaking.elapse event).accept (before.accepted event) := by
    rw [← speaking_handle, handled]
  have gate : after.voiceInteractorSemaphor = after.speaking.voiceInteractorSemaphor := rfl
  have timers : after.gateTimers = after.speaking.gateTimers := rfl
  rw [gate, timers, reached]
  cases isAccepted : before.accepted event with
  | some call =>
      have wasOpen : before.voiceInteractorSemaphor = true := by
        by_contra closed
        simp [accepted, closed] at isAccepted
      rw [wasOpen] at coupled
      cases event with
      | gateTimer => simp [accepted, offered] at isAccepted
      | _ => exact coupled.close
  | none =>
      cases event with
      | gateTimer =>
          simp only [enabled, decide_eq_true_eq] at isEnabled
          exact coupled.fire isEnabled
      | _ => exact coupled

end VisionApp.SpeechManager
