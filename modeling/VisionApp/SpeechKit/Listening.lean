import VisionApp.EventMachine.OneShot
import VisionApp.SpeechKit.SpeechManager

/-!
# Listening sessions

A recognition result takes `listeningSempahor` and schedules `voiceInputAction`,
but no path of `voiceInputAction` gives the semaphore back. The flag and the
pending timer are coupled only until the first action runs; afterwards no result
schedules anything, in any session.

The handler of a recognition task does not know its session. A late callback of
an earlier task therefore writes into the session that is current when it
arrives, unless it repeats what is already there.
-/

namespace VisionApp.SpeechManager

open EventMachine EventMachine.Machine

/-- `listeningSempahor` is taken exactly while one action is pending, never two. -/
def ListeningCoupled (manager : SpeechManager) : Prop :=
  (manager.listeningSempahor = false ↔ manager.actionTimers = 1) ∧ manager.actionTimers ≤ 1

instance (manager : SpeechManager) : Decidable manager.ListeningCoupled :=
  inferInstanceAs (Decidable (_ ∧ _))

def isResult : Event → Bool
  | .recognition _ (some _) _ => true
  | _ => false

/-- The step leaves the semaphore coupled to the pending action, and a first result with no
action pending schedules exactly one. -/
def ListeningLaw (before : SpeechManager) (event : Event) : Prop :=
  (before.handle event).1.ListeningCoupled ∧
    (isResult event = true → before.actionTimers = 0 → (before.handle event).1.actionTimers = 1)

instance (before : SpeechManager) (event : Event) : Decidable (ListeningLaw before event) :=
  inferInstanceAs (Decidable (_ ∧ _))

theorem listeningCoupled_iff {manager : SpeechManager} :
    manager.ListeningCoupled ↔ OneShot manager.listeningSempahor manager.actionTimers :=
  OneShot.iff_closed.symm

theorem voiceInputAction_keeps (manager : SpeechManager) :
    manager.voiceInputAction.1.listeningSempahor = manager.listeningSempahor ∧
      manager.voiceInputAction.1.actionTimers = manager.actionTimers := by
  simp only [voiceInputAction]
  split <;> simp [voiceOutput_eq]

theorem resultHandler_listening (manager : SpeechManager) (result : Option String)
    (error : Bool) :
    (manager.resultHandler result error).listeningSempahor =
        (manager.listeningSempahor && result.isNone) ∧
      (manager.resultHandler result error).actionTimers =
        manager.actionTimers + if manager.listeningSempahor && result.isSome then 1 else 0 := by
  cases result with
  | none => cases error <;> simp [resultHandler]
  | some text => cases error <;> cases semaphore : manager.listeningSempahor <;>
      simp [resultHandler, semaphore]

theorem listening_cases (before : SpeechManager) (event : Event) :
    (event = .voiceInputAction ∧
        (before.handle event).1.listeningSempahor = before.listeningSempahor ∧
        (before.handle event).1.actionTimers = before.actionTimers - 1) ∨
      (isResult event = true ∧ before.listeningSempahor = true ∧
        (before.handle event).1.listeningSempahor = false ∧
        (before.handle event).1.actionTimers = before.actionTimers + 1) ∨
      (event ≠ .voiceInputAction ∧ (isResult event = true → before.listeningSempahor = false) ∧
        (before.handle event).1.listeningSempahor = before.listeningSempahor ∧
        (before.handle event).1.actionTimers = before.actionTimers) := by
  cases event with
  | voiceInputAction =>
      left
      exact ⟨rfl, voiceInputAction_keeps _⟩
  | recognition task result error =>
      right
      have written := resultHandler_listening before result error
      cases result with
      | none =>
          right
          simpa [handle, isResult] using written
      | some text =>
          cases semaphore : before.listeningSempahor with
          | true =>
              left
              simpa [handle, isResult, semaphore] using written
          | false =>
              right
              simpa [handle, isResult, semaphore] using written
  | didFinish engineStarts =>
      right; right
      simp only [handle, didFinish]
      split <;> simp [isResult, voiceInput]
  | voiceOutput message commandType => right; right; simp [handle, isResult, voiceOutput_eq]
  | voiceInput engineStarts => right; right; simp [handle, isResult, voiceInput]
  | inputsToSaveLocation => right; right; simp [handle, isResult, inputsToSaveLocation]
  | gateTimer => right; right; simp [handle, isResult]
  | namePromptBlock => right; right; simp [handle, isResult, voiceOutput_eq]

theorem listeningLaw_of_ne {before : SpeechManager} {event : Event}
    (coupled : before.ListeningCoupled) (noAction : event ≠ .voiceInputAction) :
    ListeningLaw before event := by
  rw [listeningCoupled_iff] at coupled
  simp only [ListeningLaw, listeningCoupled_iff]
  rcases listening_cases before event with
    ⟨isAction, _⟩ | ⟨_, wasOpen, closed, scheduled⟩ | ⟨_, wasClosed, sameFlag, sameTimers⟩
  · exact absurd isAction noAction
  · rw [closed, scheduled]
    rw [wasOpen] at coupled
    refine ⟨coupled.close, ?_⟩
    intro _ noTimer
    omega
  · rw [sameFlag, sameTimers]
    refine ⟨coupled, ?_⟩
    intro isHeard noTimer
    rw [wasClosed isHeard] at coupled
    exact coupled

theorem not_listeningLaw_of_action {before : SpeechManager} (coupled : before.ListeningCoupled)
    (isPending : 0 < before.actionTimers) : ¬ListeningLaw before .voiceInputAction := by
  rw [listeningCoupled_iff] at coupled
  have kept := voiceInputAction_keeps { before with actionTimers := before.actionTimers - 1 }
  rintro ⟨after, _⟩
  rw [listeningCoupled_iff] at after
  simp only [handle, kept.1, kept.2] at after
  exact coupled.not_of_forgotten isPending after

/-- The semaphore is coupled to its timer throughout a run exactly when no action runs. -/
theorem listening_iff_no_action {events : List Event} {finish : SpeechManager}
    (run : machine.Run {} events finish) :
    machine.Always ListeningLaw {} events ↔ .voiceInputAction ∉ events := by
  rw [← Always.ne_iff_notMem run]
  have kept : ∀ before event after outputs, before.ListeningCoupled →
      ListeningLaw before event → machine.Step before event after outputs →
        after.ListeningCoupled := by
    intro before event after outputs _ law step
    have handled := (machine_step_iff.mp step).2
    have coupledAfter := law.1
    rwa [handled] at coupledAfter
  apply Always.iff_of_kept kept
  · intro before event coupled isEnabled
    constructor
    · rintro law rfl
      apply not_listeningLaw_of_action coupled _ law
      simpa [enabled] using isEnabled
    · exact listeningLaw_of_ne coupled
  · decide

def secondSession : List Event :=
  [.voiceOutput "Hi I am Listening" .voiceCommandAwakeInteractor, .didFinish true,
    .recognition 0 (some "Where am I") false, .voiceInputAction, .gateTimer,
    .voiceOutput "Hi I am Listening" .voiceCommandAwakeInteractor, .didFinish true,
    .recognition 1 (some "Let's walk") false]

/-- The second answer schedules no action: the semaphore is still taken by the first. -/
theorem secondSession_unheard :
    (∃ finish, machine.Run {} secondSession finish ∧ finish.actionTimers = 0) ∧
      ¬machine.Always ListeningLaw {} secondSession :=
  ⟨⟨_, .of_exec rfl, by decide⟩,
    Always.not_of_exec (secondSession.take 7) [] rfl rfl (by decide)⟩

theorem firstSession_coupled :
    machine.Always ListeningLaw {} (secondSession.take 3) ↔
      .voiceInputAction ∉ secondSession.take 3 :=
  listening_iff_no_action (.of_exec rfl)

/-- What belongs to the current listening session. -/
structure Session where
  recognitionRequest : Option ℕ
  recognitionTask : Option ℕ
  audioEngine : AVAudioEngine
  voiceInputMessage : String
  actionTimers : ℕ
deriving DecidableEq, Repr

def session (manager : SpeechManager) : Session where
  recognitionRequest := manager.recognitionRequest
  recognitionTask := manager.recognitionTask
  audioEngine := manager.audioEngine
  voiceInputMessage := manager.voiceInputMessage
  actionTimers := manager.actionTimers

/-- A callback of a task that an earlier `voiceInput` call started. -/
def isStale (manager : SpeechManager) : Event → Bool
  | .recognition task _ _ => task + 1 < manager.sessions
  | _ => false

/-- A stale callback leaves the current session as it was. -/
def IsolationLaw (before : SpeechManager) (event : Event) : Prop :=
  isStale before event = true → (before.handle event).1.session = before.session

instance (before : SpeechManager) (event : Event) : Decidable (IsolationLaw before event) :=
  inferInstanceAs (Decidable (_ → _))

/-- A result that repeats the recorded message once an action has been scheduled, and an error
when nothing is recording. -/
def IsRedundant (before : SpeechManager) (result : Option String) (error : Bool) : Prop :=
  (∀ text ∈ result, text = before.voiceInputMessage ∧ before.listeningSempahor = false) ∧
    (error = true → before.recognitionRequest = none ∧ before.recognitionTask = none ∧
      before.audioEngine = {})

def StaleRedundant (before : SpeechManager) (event : Event) : Prop :=
  isStale before event = true →
    ∀ task result error, event = .recognition task result error → before.IsRedundant result error

theorem session_resultHandler_iff (manager : SpeechManager) (result : Option String)
    (error : Bool) :
    (manager.resultHandler result error).session = manager.session ↔
      manager.IsRedundant result error := by
  have stopped : manager.audioEngine.stop.removeTap = {} := rfl
  have noneLeft (slot : Option ℕ) : none = slot ↔ slot = none := eq_comm
  have restLeft (engine : AVAudioEngine) : {} = engine ↔ engine = {} := eq_comm
  cases result with
  | none =>
      cases error with
      | false => simp [resultHandler, session, IsRedundant]
      | true => simp [resultHandler, session, IsRedundant, stopped, noneLeft, restLeft]
  | some text =>
      cases error with
      | false =>
          cases semaphore : manager.listeningSempahor <;>
            simp [resultHandler, session, IsRedundant, semaphore]
      | true =>
          cases semaphore : manager.listeningSempahor with
          | true => simp [resultHandler, session, IsRedundant, semaphore]
          | false =>
              simp [resultHandler, session, IsRedundant, semaphore, stopped, noneLeft, restLeft]
              tauto

/-- Stale callbacks leave every current session of a run alone exactly when all of them are
redundant. -/
theorem isolation_iff_redundant (events : List Event) :
    machine.Always IsolationLaw {} events ↔ machine.Always StaleRedundant {} events := by
  apply Always.congr
  intro before event _ _
  cases event with
  | recognition task result error =>
      simp only [IsolationLaw, StaleRedundant, handle, session_resultHandler_iff]
      apply imp_congr_right
      intro _
      constructor
      · rintro redundant _ _ _ ⟨rfl, rfl, rfl⟩
        exact redundant
      · intro redundant
        exact redundant task result error rfl
  | _ => simp [IsolationLaw, StaleRedundant, isStale]

def lateError : List Event :=
  [.voiceOutput "Hi I am Listening" .voiceCommandAwakeInteractor, .didFinish true, .gateTimer,
    .voiceOutput "Hi I am Listening" .voiceCommandAwakeInteractor, .didFinish true,
    .recognition 0 none true]

/-- The error of the first task stops the engine and drops the tap, request and task of the
second session. -/
theorem lateError_stops :
    (∃ finish, machine.Run {} lateError finish ∧ finish.audioEngine = {} ∧
      finish.recognitionRequest = none ∧ finish.recognitionTask = none) ∧
      ¬machine.Always IsolationLaw {} lateError :=
  ⟨⟨_, .of_exec rfl, by decide⟩,
    Always.not_of_exec (lateError.take 5) [] rfl rfl (by decide)⟩

end VisionApp.SpeechManager
