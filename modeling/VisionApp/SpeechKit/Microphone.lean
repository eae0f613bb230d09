import VisionApp.SpeechKit.SpeechManager

/-!
# What the manager records

Every `voiceInput` makes its own session the current one in all its parts at
once, and an error of any session drops them all. So the request, the task and
the tap always belong to the same session, the latest.
-/

namespace VisionApp

/-- The part of the manager that records. -/
structure Microphone where
  sessions : ℕ
  recognitionRequest : Option ℕ
  recognitionTask : Option ℕ
  audioEngine : AVAudioEngine

namespace Microphone

def voiceInput (microphone : Microphone) (engineStarts : Bool) : Microphone where
  sessions := microphone.sessions + 1
  recognitionRequest := some microphone.sessions
  recognitionTask := some microphone.sessions
  audioEngine :=
    { isRunning := microphone.audioEngine.isRunning || engineStarts
      tap := some microphone.sessions }

/-- What an error of a recognition task leaves. -/
def stop (microphone : Microphone) : Microphone where
  sessions := microphone.sessions
  recognitionRequest := none
  recognitionTask := none
  audioEngine := {}

/-- The parts of the microphone belong together, and it records into the latest session. -/
structure Recording (microphone : Microphone) : Prop where
  request : microphone.recognitionRequest = microphone.recognitionTask
  tap : microphone.audioEngine.tap = microphone.recognitionTask
  latest : ∀ session, microphone.recognitionTask = some session →
    microphone.sessions = session + 1
  running : microphone.audioEngine.isRunning = true → microphone.recognitionTask.isSome = true

theorem Recording.voiceInput (microphone : Microphone) (engineStarts : Bool) :
    (microphone.voiceInput engineStarts).Recording where
  request := rfl
  tap := rfl
  latest := by
    rintro session same
    rw [← Option.some.inj same]
    rfl
  running _ := rfl

theorem Recording.stop (microphone : Microphone) : microphone.stop.Recording where
  request := rfl
  tap := rfl
  latest := by
    rintro session impossible
    simp [Microphone.stop] at impossible
  running := by
    intro impossible
    simp [Microphone.stop] at impossible

end Microphone

namespace SpeechManager

def microphone (manager : SpeechManager) : Microphone where
  sessions := manager.sessions
  recognitionRequest := manager.recognitionRequest
  recognitionTask := manager.recognitionTask
  audioEngine := manager.audioEngine

/-- The event calls `voiceInput`, with the answer of the engine. -/
def listens (manager : SpeechManager) : Event → Option Bool
  | .voiceInput engineStarts => some engineStarts
  | .didFinish engineStarts =>
      if manager.currentSpeechCommad = .voiceCommandInfo then none else some engineStarts
  | _ => none

def fails : Event → Bool
  | .recognition _ _ error => error
  | _ => false

theorem microphone_voiceOutput (manager : SpeechManager) (message : String)
    (commandType : VoiceCommand) :
    (manager.voiceOutput message commandType).microphone = manager.microphone := by
  rw [voiceOutput_eq]
  rfl

theorem microphone_voiceInputAction (manager : SpeechManager) :
    manager.voiceInputAction.1.microphone = manager.microphone := by
  simp only [voiceInputAction]
  split
  · rfl
  · exact microphone_voiceOutput _ placemarkPrompt .voiceCommandLocatoiPlacemark
  · rfl
  · rfl

theorem microphone_resultHandler (manager : SpeechManager) (result : Option String)
    (error : Bool) :
    (manager.resultHandler result error).microphone =
      if error then manager.microphone.stop else manager.microphone := by
  cases error with
  | false =>
      cases result with
      | none => rfl
      | some text => cases isOpen : manager.listeningSempahor <;>
          simp [resultHandler, microphone, isOpen]
  | true =>
      cases result with
      | none => rfl
      | some text => cases isOpen : manager.listeningSempahor <;>
          simp [resultHandler, microphone, isOpen, Microphone.stop, AVAudioEngine.stop,
            AVAudioEngine.removeTap]

/-- A step calls `voiceInput`, or stops the microphone, or leaves it alone. -/
theorem microphone_handle (before : SpeechManager) (event : Event) :
    (before.handle event).1.microphone =
      match before.listens event with
      | some engineStarts => before.microphone.voiceInput engineStarts
      | none => if fails event then before.microphone.stop else before.microphone := by
  cases event with
  | voiceInput engineStarts => rfl
  | didFinish engineStarts =>
      simp only [handle, didFinish, listens]
      split
      · rfl
      · rename_i isInfo
        simp only [not_not] at isInfo
        simp only [isInfo, if_true]
        rfl
  | recognition task result error => exact microphone_resultHandler before result error
  | voiceOutput message commandType => exact microphone_voiceOutput before message commandType
  | namePromptBlock => exact microphone_voiceOutput _ namePrompt .voiceCommandLocationName
  | voiceInputAction => exact microphone_voiceInputAction _
  | inputsToSaveLocation => rfl
  | gateTimer => rfl

theorem recording_handle {before : SpeechManager} (recording : before.microphone.Recording)
    (event : Event) : (before.handle event).1.microphone.Recording := by
  rw [microphone_handle]
  split
  · exact .voiceInput _ _
  · split
    · exact .stop _
    · exact recording

theorem isRunning_handle (before : SpeechManager) (event : Event) :
    (before.handle event).1.audioEngine.isRunning = true ↔
      before.listens event = some true ∨
        before.audioEngine.isRunning = true ∧ fails event = false := by
  have reached := congrArg (fun microphone => microphone.audioEngine.isRunning)
    (microphone_handle before event)
  simp only [microphone] at reached
  rw [reached]
  cases listening : before.listens event with
  | none =>
      cases failed : fails event with
      | false => simp
      | true => simp [Microphone.stop]
  | some engineStarts =>
      have unfailing : fails event = false := by
        cases event <;> first | rfl | simp [listens] at listening
      cases engineStarts <;> simp [Microphone.voiceInput, unfailing]

end SpeechManager

end VisionApp
