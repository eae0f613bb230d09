import VisionApp.EventMachine.Basic
import VisionApp.Foundation

/-!
# The speech manager

One `SpeechManager` speaks for the whole app and listens for the user's replies.
Besides the stored properties of the class, the record holds what the manager
has outstanding with the frameworks: the utterances it handed to the
synthesizer that have not ended, the number of recognition sessions it started,
and the timers and blocks it left with the run loop. The recognition request,
task and audio tap of a session carry the number of the `voiceInput` call that
made them.

The authorization request, the audio session and console output are left out.
-/

namespace VisionApp

inductive VoiceCommand where
  | voiceCommandAwakeInteractor
  | voiceCommandLocationName
  | voiceCommandLocatoiPlacemark
  | voiceCommandInfo
deriving DecidableEq, Repr

/-- A call that the speech manager makes on `AppDelegate.visionDelegate!`. -/
inductive DelegateCall where
  | navigateToVision (isLocalLocation : Bool)
  | filterLocationList (filterInput : String)
  | whereAmI
deriving DecidableEq, Repr

/-- The audio engine, with the session whose tap is installed on bus 0 of its input node. -/
structure AVAudioEngine where
  isRunning : Bool := false
  tap : Option ℕ := none
deriving DecidableEq, Repr

namespace AVAudioEngine

def removeTap (engine : AVAudioEngine) : AVAudioEngine :=
  { engine with tap := none }

def installTap (engine : AVAudioEngine) (session : ℕ) : AVAudioEngine :=
  { engine with tap := some session }

/-- `try start()`: the environment decides whether an engine at rest starts. -/
def start (engine : AVAudioEngine) (starts : Bool) : AVAudioEngine :=
  { engine with isRunning := engine.isRunning || starts }

def stop (engine : AVAudioEngine) : AVAudioEngine :=
  { engine with isRunning := false }

end AVAudioEngine

structure SpeechManager where
  recognitionRequest : Option ℕ := none
  recognitionTask : Option ℕ := none
  audioEngine : AVAudioEngine := {}
  /-- The utterances handed to the synthesizer that have not ended, the oldest first. -/
  synthesizer : List String := []
  listeningSempahor : Bool := true
  voiceInputMessage : String := ""
  locationName : String := ""
  locationPlacemark : String := ""
  voiceInteractorSemaphor : Bool := true
  currentSpeechCommad : VoiceCommand := .voiceCommandInfo
  /-- The number of `voiceInput` calls so far. -/
  sessions : ℕ := 0
  /-- Pending 20 s timers of `voiceOutput`. -/
  gateTimers : ℕ := 0
  /-- Pending 5 s timers that will run `voiceInputAction`. -/
  actionTimers : ℕ := 0
  /-- Pending 6 s blocks of `inputsToSaveLocation`. -/
  namePrompts : ℕ := 0
deriving DecidableEq, Repr

namespace SpeechManager

def namePrompt : String := "What is the location name"

def placemarkPrompt : String := "What is the placemark for this location"

def voiceOutput (manager : SpeechManager) (message : String) (commandType : VoiceCommand) :
    SpeechManager :=
  if manager.voiceInteractorSemaphor then
    { manager with
      voiceInteractorSemaphor := false
      gateTimers := manager.gateTimers + 1
      currentSpeechCommad := commandType
      synthesizer := manager.synthesizer ++ [message] }
  else manager

def voiceInput (manager : SpeechManager) (engineStarts : Bool) : SpeechManager :=
  let session := manager.sessions
  let engine := manager.audioEngine.removeTap
  { manager with
    sessions := session + 1
    recognitionRequest := some session
    recognitionTask := some session
    audioEngine := (engine.installTap session).start engineStarts }

/-- The `resultHandler` closure that `voiceInput` gives to the recognition task. -/
def resultHandler (manager : SpeechManager) (result : Option String) (error : Bool) :
    SpeechManager :=
  let manager :=
    match result with
    | some formattedString =>
        let manager := { manager with voiceInputMessage := formattedString }
        if manager.listeningSempahor then
          { manager with
            listeningSempahor := false
            actionTimers := manager.actionTimers + 1 }
        else manager
    | none => manager
  if error then
    { manager with
      audioEngine := manager.audioEngine.stop.removeTap
      recognitionRequest := none
      recognitionTask := none }
  else manager

/-- The command branch of `voiceInputAction`, for a message that is already trimmed. -/
def awakeInteractorCall (voiceInputMessage : String) : Option DelegateCall :=
  if voiceInputMessage = "Let's walk" then some (.navigateToVision false)
  else if voiceInputMessage = "Where am I" then some .whereAmI
  else if voiceInputMessage.length < 10 then none
  else
    let isTakeMeCommand := substringBefore voiceInputMessage 10
    let destination := substringFrom voiceInputMessage 10
    if isTakeMeCommand = "Take me to" then some (.filterLocationList destination) else none

def voiceInputAction (manager : SpeechManager) : SpeechManager × Option DelegateCall :=
  let manager := { manager with
    voiceInputMessage := trimmingCharacters manager.voiceInputMessage }
  match manager.currentSpeechCommad with
  | .voiceCommandAwakeInteractor => (manager, awakeInteractorCall manager.voiceInputMessage)
  | .voiceCommandLocationName =>
      let manager := { manager with locationName := manager.voiceInputMessage }
      (manager.voiceOutput placemarkPrompt .voiceCommandLocatoiPlacemark, none)
  | .voiceCommandLocatoiPlacemark =>
      ({ manager with locationPlacemark := manager.voiceInputMessage }, none)
  | .voiceCommandInfo => (manager, none)

/-- `speechSynthesizer(_:didFinish:)`; `true` beside the manager when the listening sound plays. -/
def didFinish (manager : SpeechManager) (engineStarts : Bool) : SpeechManager × Bool :=
  if manager.currentSpeechCommad ≠ .voiceCommandInfo then
    (manager.voiceInput engineStarts, true)
  else (manager, false)

def inputsToSaveLocation (manager : SpeechManager) : SpeechManager × String × String :=
  ({ manager with namePrompts := manager.namePrompts + 1 },
    manager.locationName, manager.locationPlacemark)

theorem voiceOutput_eq (manager : SpeechManager) (message : String) (commandType : VoiceCommand) :
    manager.voiceOutput message commandType =
      { manager with
        voiceInteractorSemaphor := false
        gateTimers := manager.gateTimers + if manager.voiceInteractorSemaphor then 1 else 0
        currentSpeechCommad :=
          if manager.voiceInteractorSemaphor then commandType else manager.currentSpeechCommad
        synthesizer := manager.synthesizer ++
          if manager.voiceInteractorSemaphor then [message] else [] } := by
  cases gate : manager.voiceInteractorSemaphor <;> simp [voiceOutput, gate]
  cases manager
  simp_all

inductive Event where
  | voiceOutput (message : String) (commandType : VoiceCommand)
  | voiceInput (engineStarts : Bool)
  | inputsToSaveLocation
  | gateTimer
  | namePromptBlock
  | didFinish (engineStarts : Bool)
  | recognition (task : ℕ) (result : Option String) (error : Bool)
  | voiceInputAction
deriving DecidableEq, Repr

inductive Output where
  | playSystemSound
  | visionDelegate (call : DelegateCall)
  | inputs (locationName locationPlacemark : String)
deriving DecidableEq, Repr

/-- A callback can come only from a timer, block, utterance or task that is outstanding. -/
def enabled (manager : SpeechManager) : Event → Bool
  | .voiceOutput _ _ | .voiceInput _ | .inputsToSaveLocation => true
  | .gateTimer => 0 < manager.gateTimers
  | .namePromptBlock => 0 < manager.namePrompts
  | .didFinish _ => !manager.synthesizer.isEmpty
  | .recognition task _ _ => task < manager.sessions
  | .voiceInputAction => 0 < manager.actionTimers

def handle (manager : SpeechManager) : Event → SpeechManager × List Output
  | .voiceOutput message commandType => (manager.voiceOutput message commandType, [])
  | .voiceInput engineStarts => (manager.voiceInput engineStarts, [])
  | .inputsToSaveLocation =>
      let (manager, locationName, locationPlacemark) := manager.inputsToSaveLocation
      (manager, [.inputs locationName locationPlacemark])
  | .gateTimer =>
      ({ manager with
        gateTimers := manager.gateTimers - 1
        voiceInteractorSemaphor := true }, [])
  | .namePromptBlock =>
      let manager := { manager with namePrompts := manager.namePrompts - 1 }
      (manager.voiceOutput namePrompt .voiceCommandLocationName, [])
  | .didFinish engineStarts =>
      let manager := { manager with synthesizer := manager.synthesizer.tail }
      let (manager, sounded) := manager.didFinish engineStarts
      (manager, if sounded then [.playSystemSound] else [])
  | .recognition _ result error => (manager.resultHandler result error, [])
  | .voiceInputAction =>
      let manager := { manager with actionTimers := manager.actionTimers - 1 }
      let (manager, call) := manager.voiceInputAction
      (manager, (call.map Output.visionDelegate).toList)

theorem handle_requests (manager : SpeechManager) (event : Event) :
    (manager.handle event).2 = [] ∨ ∃ request, (manager.handle event).2 = [request] := by
  cases event with
  | voiceOutput message commandType => exact Or.inl rfl
  | voiceInput engineStarts => exact Or.inl rfl
  | inputsToSaveLocation => exact Or.inr ⟨_, rfl⟩
  | gateTimer => exact Or.inl rfl
  | namePromptBlock => exact Or.inl rfl
  | didFinish engineStarts =>
      simp only [handle]
      split
      · exact Or.inr ⟨_, rfl⟩
      · exact Or.inl rfl
  | recognition task result error => exact Or.inl rfl
  | voiceInputAction =>
      simp only [handle]
      cases ({ manager with actionTimers := manager.actionTimers - 1 }).voiceInputAction.2 with
      | none => exact Or.inl rfl
      | some call => exact Or.inr ⟨_, rfl⟩

def machine : EventMachine.Machine SpeechManager Event Output Trap where
  enabled := enabled
  handle manager event := .ok (manager.handle event)

@[simp]
theorem machine_enabled (manager : SpeechManager) (event : Event) :
    machine.enabled manager event = manager.enabled event :=
  rfl

theorem machine_step_iff {before after : SpeechManager} {event : Event} {outputs : List Output} :
    machine.Step before event after outputs ↔
      before.enabled event = true ∧ before.handle event = (after, outputs) := by
  simp [EventMachine.Machine.Step, machine]

end SpeechManager

end VisionApp
