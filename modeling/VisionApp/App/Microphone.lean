import VisionApp.App.Calls
import VisionApp.App.Destination
import VisionApp.EventMachine.Since
import VisionApp.SpeechKit.Microphone

/-!
# When the app records

The microphone is switched on when an utterance ends, whichever it is, while
`currentSpeechCommad` is that of a message that expects a reply: the message
accepted last, which need not be the one that ended. The app has one way to
switch it off, the error of a recognition task. The reply, the action on it, the
end of the dialogue and the screens have no part in it.
-/

namespace VisionApp.App

open EventMachine

theorem microphone_carried {before after : App} {call : Call}
    (carried : Carried before call after) :
    after.speechManager.microphone = before.speechManager.microphone := by
  cases carried with
  | spoken message commandType => exact SpeechManager.microphone_voiceOutput _ message commandType
  | notified nexStep => exact SpeechManager.microphone_voiceOutput _ nexStep .voiceCommandInfo
  | saved =>
      exact SpeechManager.microphone_voiceOutput before.speechManager.inputsToSaveLocation.1
        "Location Saved successfully " .voiceCommandInfo
  | _ => rfl

theorem microphone_carryOutAll (app : App) (calls : List Call) :
    (app.carryOutAll calls).1.speechManager.microphone = app.speechManager.microphone := by
  apply carryOutAll_related (fun before after =>
    after.speechManager.microphone = before.speechManager.microphone)
  · exact fun _ => rfl
  · intro before middle after first second
    exact second.trans first
  · intro before after call _ carried
    exact microphone_carried carried

/-- Only the callbacks of the speech manager reach the microphone. -/
theorem microphone_of_step {before after : App} {event : Event} {outputs : List Output}
    (navigated : before.Navigated) (step : machine.Step before event after outputs) :
    (∃ callback, event = .speech callback ∧ after.speechManager.microphone =
      (before.speechManager.handle callback).1.microphone) ∨
      (∀ callback, event ≠ .speech callback) ∧
        after.speechManager.microphone = before.speechManager.microphone := by
  rcases delivered_of_step navigated step with ⟨middle, calls, delivered, carried⟩
  have called := microphone_carryOutAll middle calls
  rw [carried] at called
  cases delivered with
  | speech isEnabled received => exact Or.inl ⟨_, rfl, called⟩
  | launch notLaunched => exact Or.inr ⟨by simp, called⟩
  | home isEnabled handled => exact Or.inr ⟨by simp, called⟩
  | vision present isEnabled handled received => exact Or.inr ⟨by simp, called⟩
  | back covered => exact Or.inr ⟨by simp, called⟩
  | location isEnabled handled => exact Or.inr ⟨by simp, called⟩
  | whereAmIBlock pending => exact Or.inr ⟨by simp, called⟩

/-- Some utterance ends while `currentSpeechCommad` is not `voiceCommandInfo`, and the engine
starts. -/
def startsRecording (before : App) : Event → Bool
  | .speech event => before.speechManager.listens event = some true
  | _ => false

def stopsRecording : Event → Bool
  | .speech event => SpeechManager.fails event
  | _ => false

theorem isRunning_of_step {before after : App} {event : Event} {outputs : List Output}
    (navigated : before.Navigated) (step : machine.Step before event after outputs) :
    after.speechManager.audioEngine.isRunning = true ↔
      before.startsRecording event = true ∨
        before.speechManager.audioEngine.isRunning = true ∧ stopsRecording event = false := by
  have engine {left right : SpeechManager} (same : left.microphone = right.microphone) :
      left.audioEngine.isRunning = right.audioEngine.isRunning :=
    congrArg (fun microphone => microphone.audioEngine.isRunning) same
  rcases microphone_of_step navigated step with ⟨callback, rfl, reached⟩ | ⟨elsewhere, unchanged⟩
  · rw [engine reached, SpeechManager.isRunning_handle]
    simp [startsRecording, stopsRecording]
  · rw [engine unchanged]
    cases event with
    | speech callback => exact absurd rfl (elsewhere callback)
    | _ => simp [startsRecording, stopsRecording]

/-- In every run, the engine runs exactly when some utterance has ended while `currentSpeechCommad`
was not `voiceCommandInfo`, with an engine that started, and no recognition task has failed since.
While it runs, what is recorded goes to the latest session. -/
theorem records_iff_since {realm : RealmManager} {events : List Event} {app : App}
    (run : machine.Run (start realm) events app) :
    (app.speechManager.audioEngine.isRunning = true ↔
      machine.Since startsRecording stopsRecording (start realm) events) ∧
      (app.speechManager.audioEngine.isRunning = true →
        ∃ session, app.speechManager.sessions = session + 1 ∧
          app.speechManager.audioEngine.tap = some session ∧
          app.speechManager.recognitionRequest = some session ∧
          app.speechManager.recognitionTask = some session) := by
  constructor
  · apply Machine.Run.flag_iff_since (fun app => app.speechManager.audioEngine.isRunning) _ rfl run
    intro before event after outputs reached step
    exact isRunning_of_step (navigated_of_reachable reached) step
  · have recording : app.speechManager.microphone.Recording := by
      induction run with
      | refl => exact ⟨rfl, rfl, by simp [start, SpeechManager.microphone], by
          simp [start, SpeechManager.microphone]⟩
      | snoc earlier step ih =>
          rcases microphone_of_step (navigated_of_reachable earlier.reachable) step with
            ⟨callback, _, reached⟩ | ⟨_, unchanged⟩
          · rw [reached]
            exact SpeechManager.recording_handle ih callback
          · rw [unchanged]
            exact ih
    intro isRunning
    rcases Option.isSome_iff_exists.mp (recording.running isRunning) with ⟨session, isTask⟩
    refine ⟨session, recording.latest session isTask, ?_, ?_, isTask⟩
    · exact recording.tap.trans isTask
    · exact recording.request.trans isTask

/-- The reply has been acted on and the walk is over, and the app still records. -/
def walkAndBack : List Event :=
  [.launch, .home .longPress, .home (.swipe .right), .speech (.didFinish true),
    .speech (.recognition 0 (some "Where am I") false), .speech .voiceInputAction,
    .vision 0 (.swipe .left)]

theorem walkAndBack_records :
    ∃ app, machine.Run (start {}) walkAndBack app ∧ app.onScreen = some .home ∧
      app.speechManager.audioEngine.isRunning = true ∧
      machine.Since startsRecording stopsRecording (start {}) walkAndBack := by
  have run : machine.Run (start {}) walkAndBack
      ((machine.exec (start {}) walkAndBack).getD {}) := .of_exec rfl
  exact ⟨_, run, rfl, rfl, (records_iff_since run).1.mp rfl⟩

end VisionApp.App
