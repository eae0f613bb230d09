import VisionApp.App.Calls
import VisionApp.App.Destination
import VisionApp.EventMachine.Account
import VisionApp.ViewController.Requests
import VisionApp.ViewController.Selection

/-!
# The work that is left to do

Timers, blocks, tasks and requests call back into the app, and a callback may
leave new ones behind. The workload of a state weighs everything that is
outstanding by the callbacks it can still cause. No callback adds to it: each
one pays for what it starts, and one unit more. Only what comes from outside, a
gesture, an edit, a frame, a fix or a recognised reply, brings new work, at most
six callbacks each.
-/

namespace VisionApp

open EventMachine

section Pending

/-- A gate timer and an utterance are one callback each. A prompt that is due says something, and
an action may also ask where the user is. -/
def SpeechManager.pending (manager : SpeechManager) : ℕ :=
  manager.gateTimers + manager.synthesizer.length + 3 * manager.namePrompts +
    5 * manager.actionTimers

/-- An answer says something. -/
def LocationManager.pending (manager : LocationManager) : ℕ :=
  3 * manager.directions.length + 3 * manager.geocodes.length

/-- A search timer may start a search, and the answer to a search may say something. -/
def HomeViewController.pending (home : HomeViewController) : ℕ :=
  4 * home.searchTimers + 3 * home.searches.length

/-- A task performs its request, which leaves a block that says something, and ends. -/
def VisionTask.pending (task : VisionTask) : ℕ :=
  if task.performed then 1 else 5

def VisionViewController.pending (controller : VisionViewController) : ℕ :=
  (controller.visionQueue.map VisionTask.pending).sum + 3 * controller.displayBlocks

namespace App

def workload (app : App) : ℕ :=
  app.speechManager.pending + app.locationManager.pending + app.home.pending +
    (app.visions.map VisionViewController.pending).sum + 4 * app.whereAmIBlocks

/-- The events that something outstanding causes. All others come from outside. -/
def isCallback : Event → Bool
  | .home (.searchTimer _) | .home (.searchCompleted _ _) => true
  | .vision _ (.taskPerformed _ _) | .vision _ .taskEnded | .vision _ .displayBlock => true
  | .speech .gateTimer | .speech .namePromptBlock => true
  | .speech (.didFinish _) | .speech .voiceInputAction => true
  | .location (.directionsCompleted _ _) | .location (.geocoded _ _) => true
  | .whereAmIBlock => true
  | _ => false

end App

end Pending

namespace App

section Calls

def speaks : Call → Bool
  | .voiceOutput _ _ | .saveThisLocation | .post _ => true
  | _ => false

/-- The work that a call leaves behind besides what it says. -/
def leaves : Call → ℕ
  | .saveThisLocation => 3
  | .whereAmI | .delegate _ _ => 4
  | .getUserLocatoin => 3
  | _ => 0

/-- However many calls of a step speak, the gate lets one through. -/
def callsWork (calls : List Call) : ℕ :=
  (if calls.any speaks then 2 else 0) + (calls.map leaves).sum

/-- The workload, with what the open gate lets through. -/
def reserve (app : App) : ℕ :=
  app.workload + 2 * app.speechManager.voiceInteractorSemaphor.toNat

theorem pending_voiceOutput (manager : SpeechManager) (message : String)
    (commandType : VoiceCommand) :
    (manager.voiceOutput message commandType).pending +
        2 * (manager.voiceOutput message commandType).voiceInteractorSemaphor.toNat =
      manager.pending + 2 * manager.voiceInteractorSemaphor.toNat := by
  rw [SpeechManager.voiceOutput_eq]
  cases gate : manager.voiceInteractorSemaphor with
  | true =>
      simp [SpeechManager.pending]
      omega
  | false => simp [SpeechManager.pending]

theorem reserve_voiceOutput (app : App) (message : String) (commandType : VoiceCommand) :
    (app.voiceOutput message commandType).reserve = app.reserve := by
  have spoken := pending_voiceOutput app.speechManager message commandType
  simp only [reserve, workload, voiceOutput]
  omega

theorem reserve_carried {before after : App} {call : Call} (carried : Carried before call after) :
    after.reserve ≤ before.reserve + leaves call := by
  cases carried with
  | spoken message commandType => exact (reserve_voiceOutput before message commandType).le
  | notified nexStep => exact (reserve_voiceOutput before nexStep .voiceCommandInfo).le
  | saved =>
      have spoken := reserve_voiceOutput { before with
        speechManager := before.speechManager.inputsToSaveLocation.1
        realm := before.realm.saveLocation (before.locationManager.newLocation
          before.speechManager.inputsToSaveLocation.2) } "Location Saved successfully "
        .voiceCommandInfo
      simp only [saveThisLocation, saveCompletion, if_true, spoken]
      simp only [reserve, workload, SpeechManager.inputsToSaveLocation, SpeechManager.pending,
        leaves]
      omega
  | shown =>
      simp [reserve, workload, VisionViewController.pending, VisionViewController.viewWillAppear]
  | asked =>
      simp only [whereAmI, reserve, workload, leaves]
      omega
  | delegated receiver call =>
      simp only [whereAmI, reserve, workload, leaves]
      omega
  | located =>
      simp only [getUserLocatoin, LocationManager.getUserLocatoin, reserve, workload,
        LocationManager.pending, List.length_append, List.length_cons, List.length_nil, leaves]
      omega
  | popped =>
      simp [popViewController, homeViewWillAppear, HomeViewController.viewWillAppear, reserve,
        workload, HomeViewController.pending]
  | kept call => omega

theorem gate_carried {before after : App} {call : Call} (silent : speaks call = false)
    (carried : Carried before call after) :
    after.speechManager.voiceInteractorSemaphor =
      before.speechManager.voiceInteractorSemaphor := by
  cases carried with
  | spoken message commandType => simp [speaks] at silent
  | notified nexStep => simp [speaks] at silent
  | saved => simp [speaks] at silent
  | _ => rfl

theorem reserve_carryOutAll (app : App) (calls : List Call) :
    (app.carryOutAll calls).1.reserve ≤ app.reserve + (calls.map leaves).sum := by
  induction calls generalizing app with
  | nil => simp [carryOutAll]
  | cons call calls ih =>
      have first := reserve_carried (carried_of_carryOut app call)
      have rest := ih (app.carryOut call).1
      simp only [carryOutAll, List.map_cons, List.sum_cons]
      omega

theorem gate_carryOutAll {app : App} {calls : List Call} (silent : calls.any speaks = false) :
    (app.carryOutAll calls).1.speechManager.voiceInteractorSemaphor =
      app.speechManager.voiceInteractorSemaphor := by
  apply carryOutAll_related (fun before after =>
    after.speechManager.voiceInteractorSemaphor = before.speechManager.voiceInteractorSemaphor)
  · exact fun _ => rfl
  · intro before middle after first second
    exact second.trans first
  · intro before after call callMem carried
    apply gate_carried _ carried
    simpa using List.any_eq_false.mp silent call callMem

/-- The calls of a step leave behind what they ask for, and one utterance if one of them speaks. -/
theorem workload_carryOutAll (app : App) (calls : List Call) :
    (app.carryOutAll calls).1.workload ≤ app.workload + callsWork calls := by
  have reserved := reserve_carryOutAll app calls
  have gateBound : app.speechManager.voiceInteractorSemaphor.toNat ≤ 1 := Bool.toNat_le _
  simp only [reserve] at reserved
  simp only [callsWork]
  split
  · omega
  · rename_i silent
    rw [gate_carryOutAll (Bool.eq_false_iff.mpr silent)] at reserved
    omega

end Calls

end App

section Handlers

theorem SpeechManager.pending_voiceOutput_le (manager : SpeechManager) (message : String)
    (commandType : VoiceCommand) :
    (manager.voiceOutput message commandType).pending ≤ manager.pending + 2 := by
  have spoken := App.pending_voiceOutput manager message commandType
  have gateBound : manager.voiceInteractorSemaphor.toNat ≤ 1 := Bool.toNat_le _
  omega

theorem SpeechManager.pending_resultHandler (manager : SpeechManager) (result : Option String)
    (error : Bool) : (manager.resultHandler result error).pending ≤ manager.pending + 5 := by
  cases result with
  | none => cases error <;> simp [resultHandler, pending]
  | some text => cases error <;> cases semaphore : manager.listeningSempahor <;>
      simp [resultHandler, semaphore, pending] <;> omega

theorem SpeechManager.pending_voiceInputAction (manager : SpeechManager) :
    manager.voiceInputAction.1.pending + (if manager.voiceInputAction.2.isSome then 4 else 0) ≤
      manager.pending + 4 := by
  cases command : manager.currentSpeechCommad with
  | voiceCommandAwakeInteractor =>
      simp only [voiceInputAction, command, pending]
      split <;> omega
  | voiceCommandLocationName =>
      have spoken := pending_voiceOutput_le { manager with
        voiceInputMessage := trimmingCharacters manager.voiceInputMessage
        locationName := trimmingCharacters manager.voiceInputMessage } placemarkPrompt
        .voiceCommandLocatoiPlacemark
      have same : ({ manager with
        voiceInputMessage := trimmingCharacters manager.voiceInputMessage
        locationName := trimmingCharacters manager.voiceInputMessage } : SpeechManager).pending =
          manager.pending := rfl
      simp only [voiceInputAction, command, Option.isSome_none, Bool.false_eq_true, if_false]
      simp only [command] at spoken same
      omega
  | voiceCommandLocatoiPlacemark => simp [voiceInputAction, command, pending]
  | voiceCommandInfo => simp [voiceInputAction, command, pending]

namespace SpeechManager

/-- The delegate may leave a block behind. -/
def asks : Output → ℕ
  | .visionDelegate _ => 4
  | _ => 0

def brings : Event → ℕ
  | .recognition _ _ _ => 5
  | _ => 0

def spends : Event → ℕ
  | .gateTimer | .namePromptBlock | .didFinish _ | .voiceInputAction => 1
  | _ => 0

theorem pending_handle {before : SpeechManager} {event : Event}
    (isEnabled : before.enabled event = true)
    (notCall : ∀ message commandType, event ≠ .voiceOutput message commandType)
    (notAsked : event ≠ .inputsToSaveLocation) :
    (before.handle event).1.pending + ((before.handle event).2.map asks).sum + spends event ≤
      before.pending + brings event := by
  cases event with
  | voiceOutput message commandType => exact absurd rfl (notCall message commandType)
  | inputsToSaveLocation => exact absurd rfl notAsked
  | voiceInput engineStarts => simp [handle, voiceInput, pending, spends]
  | gateTimer =>
      simp only [enabled, decide_eq_true_eq] at isEnabled
      simp only [handle, pending, spends, brings, List.map_nil, List.sum_nil]
      omega
  | namePromptBlock =>
      simp only [enabled, decide_eq_true_eq] at isEnabled
      have spoken := pending_voiceOutput_le { before with
        namePrompts := before.namePrompts - 1 } namePrompt .voiceCommandLocationName
      simp only [handle, spends, brings, List.map_nil, List.sum_nil]
      simp only [pending] at spoken ⊢
      omega
  | didFinish engineStarts =>
      simp only [enabled, Bool.not_eq_true', List.isEmpty_eq_false_iff] at isEnabled
      have outstanding := List.length_pos_of_ne_nil isEnabled
      simp only [handle, didFinish]
      split
      · simp [voiceInput, pending, asks, spends]
        omega
      · simp [pending, spends]
        omega
  | recognition task result error =>
      have heard := pending_resultHandler before result error
      simpa [handle, spends, brings] using heard
  | voiceInputAction =>
      simp only [enabled, decide_eq_true_eq] at isEnabled
      have acted := pending_voiceInputAction { before with
        actionTimers := before.actionTimers - 1 }
      have paid : ({ before with actionTimers := before.actionTimers - 1 } :
          SpeechManager).pending + 5 = before.pending := by
        simp only [pending]
        omega
      simp only [handle, spends, brings]
      cases called : ({ before with actionTimers := before.actionTimers - 1 } :
          SpeechManager).voiceInputAction.2 with
      | none => simp [called] at acted ⊢; omega
      | some call => simp [called, asks] at acted ⊢; omega

end SpeechManager

namespace HomeViewController

def brings : Event → ℕ
  | .textDidChange _ => 4
  | .filterLocationList _ => 3
  | _ => 0

def spends : Event → ℕ
  | .searchTimer _ => 1
  | .searchCompleted _ _ => 3
  | _ => 0

theorem pending_reaction {before after : HomeViewController} {event : Event}
    (isEnabled : before.enabled event = true) (reaction : Reaction before event after) :
    after.pending + spends event ≤ before.pending + brings event := by
  cases reaction with
  | textDidChange searchText =>
      rw [textDidChange_eq]
      simp only [pending, spends, brings]
      split <;> omega
  | searchTimer saved =>
      simp only [enabled, decide_eq_true_eq] at isEnabled
      rw [searchTimerBlock_eq]
      simp only [pending, spends, brings, List.length_append]
      split <;> simp <;> omega
  | answered counter outstanding converted =>
      have bound := (List.getElem?_eq_some_iff.mp outstanding).1
      simp only [pending, spends, brings, List.length_eraseIdx, bound, if_true]
      omega
  | unanswered nothing =>
      simp only [enabled, decide_eq_true_eq] at isEnabled
      simp only [pending, spends, brings, List.length_eraseIdx, isEnabled, if_true]
      omega
  | filtered counter isSaid found => simp [pending, spends]
  | notFound isSaid nothingFound =>
      simp only [pending, spends, brings, List.length_append, List.length_singleton]
      omega
  | nothingSaid counter => simp [pending, spends]
  | viewWillAppear saved => exact le_rfl
  | swipe direction counter => exact le_rfl
  | tap => exact le_rfl
  | longPress => exact le_rfl
  | navigateToVision isLocalLocation => exact le_rfl
  | tableLayout => exact le_rfl
  | cellForRowAt inRange => exact le_rfl

end HomeViewController

namespace LocationManager

def brings : Event → ℕ
  | .didUpdateLocations _ => 6
  | .takeMeThere | .initRoute | .getUserLocatoin => 3
  | _ => 0

def spends : Event → ℕ
  | .directionsCompleted _ _ | .geocoded _ _ => 3
  | _ => 0

theorem pending_didUpdateLocations {before after : LocationManager} {locations : List CLLocation}
    (updated : before.didUpdateLocations locations = .ok after) :
    after.pending ≤ before.pending + 6 := by
  simp only [didUpdateLocations, bind_eq_ok_iff, pure_eq_ok_iff] at updated
  rcases updated with ⟨location, _, rfl⟩
  cases before.isLocalDestination <;> cases before.getRoute <;>
    simp [takeMeThere, pending] <;> omega

theorem pending_reaction {before after : LocationManager} {event : Event}
    {outputs : List Output} (isEnabled : before.enabled event = true)
    (reaction : Reaction before event after outputs) :
    after.pending + spends event ≤ before.pending + brings event := by
  cases reaction with
  | didUpdateLocations updated => exact pending_didUpdateLocations updated
  | visionWillAppear controller =>
      rcases visionWillAppear_frame before controller with ⟨coordinates, isLocalDestination, frame⟩
      rw [frame]
      exact le_rfl
  | showRoute showed =>
      rcases showRoute_frame showed with ⟨moveCount, nextMove, rfl⟩
      exact le_rfl
  | directionsAnswered showed =>
      simp only [enabled, decide_eq_true_eq] at isEnabled
      rcases showRoute_frame showed with ⟨moveCount, nextMove, rfl⟩
      simp only [pending, spends, brings, List.length_eraseIdx, isEnabled, if_true]
      omega
  | directionsFailed index =>
      simp only [enabled, decide_eq_true_eq] at isEnabled
      simp only [pending, spends, brings, List.length_eraseIdx, isEnabled, if_true]
      omega
  | geocoded answered =>
      simp only [enabled, decide_eq_true_eq] at isEnabled
      rcases geocoded_frame answered with ⟨addressString, rfl⟩
      simp only [pending, spends, brings, List.length_eraseIdx, isEnabled, if_true]
      omega
  | takeMeThere =>
      simp only [takeMeThere, pending, spends, brings, List.length_append, List.length_singleton]
      omega
  | initRoute =>
      simp only [initRoute, pending, spends, brings, List.length_append, List.length_singleton]
      omega
  | getUserLocatoin =>
      simp only [getUserLocatoin, pending, spends, brings, List.length_append,
        List.length_singleton]
      omega
  | didFailWithError => exact le_rfl
  | setDestinationCoordinate newValue => exact le_rfl

end LocationManager

namespace VisionViewController

def brings : Event → ℕ
  | .sessionDidUpdate _ _ _ => 5
  | _ => 0

def spends : Event → ℕ
  | .taskPerformed _ _ | .taskEnded => 1
  | .displayBlock => 3
  | _ => 0

theorem pending_performTask {before after : VisionViewController}
    {results : Option (List VNClassificationObservation)} {error : Option String}
    (isEnabled : before.enabled (.taskPerformed results error) = true)
    (performed : before.performTask results error = .ok after) :
    after.pending + 1 ≤ before.pending := by
  simp only [performTask, bind_eq_ok_iff] at performed
  rcases performed with ⟨middle, processed, performed⟩
  have reported : middle.visionQueue = before.visionQueue ∧
      middle.displayBlocks ≤ before.displayBlocks + 1 := by
    simp only [processClassifications] at processed
    split at processed
    · split at processed
      · simp at processed
      · rw [Except.ok.injEq] at processed
        simp [← processed]
    · rw [Except.ok.injEq] at processed
      simp [← processed]
  simp only [enabled] at isEnabled
  rw [reported.1] at performed
  cases queued : before.visionQueue with
  | nil => simp [queued] at isEnabled
  | cons task rest =>
      simp only [queued, pure_eq_ok_iff] at performed
      simp only [queued, List.head?_cons, Option.any_some, Bool.not_eq_true'] at isEnabled
      subst after
      simp only [pending, queued, List.map_cons, List.sum_cons, VisionTask.pending, isEnabled]
      simp
      omega

theorem pending_handle {before after : VisionViewController} {event : Event}
    {requests : List Output} (isEnabled : before.enabled event = true)
    (handled : before.handle event = .ok (after, requests)) :
    after.pending + spends event ≤ before.pending + brings event := by
  cases event with
  | taskPerformed results error =>
      simp only [handle, bind_eq_ok_iff, pure_eq_ok_iff, Prod.mk.injEq] at handled
      rcases handled with ⟨middle, performed, rfl, _⟩
      exact pending_performTask isEnabled performed
  | sessionDidUpdate capturedImage trackingIsNormal orientation =>
      cases reaction_of_handle handled with
      | frameTaken free => simp [pending, spends, brings, VisionTask.pending]; omega
      | frameIgnored ignored => exact Nat.le_add_right _ _
  | taskEnded =>
      simp only [handle, Except.ok.injEq, Prod.mk.injEq] at handled
      rcases handled with ⟨rfl, _⟩
      simp only [enabled, Bool.not_eq_true', List.isEmpty_eq_false_iff] at isEnabled
      cases queued : before.visionQueue with
      | nil => exact absurd queued isEnabled
      | cons task rest =>
          simp only [endTask, pending, queued, List.tail_cons, List.map_cons, List.sum_cons,
            VisionTask.pending, spends, brings]
          split <;> omega
  | displayBlock =>
      simp only [handle, Except.ok.injEq, Prod.mk.injEq] at handled
      rcases handled with ⟨rfl, _⟩
      simp only [enabled, decide_eq_true_eq] at isEnabled
      simp only [pending, spends, brings]
      omega
  | swipe direction =>
      simp only [handle, Except.ok.injEq, Prod.mk.injEq] at handled
      rw [← handled.1]
      exact le_rfl
  | tap =>
      simp only [handle, Except.ok.injEq, Prod.mk.injEq] at handled
      rw [← handled.1]
      exact le_rfl
  | longPress => simp [handle] at handled

end VisionViewController

end Handlers

namespace App

theorem sum_pending_set {visions : List VisionViewController} {screen : ℕ}
    {before : VisionViewController} (present : visions[screen]? = some before)
    (after : VisionViewController) :
    ((visions.set screen after).map VisionViewController.pending).sum + before.pending =
      (visions.map VisionViewController.pending).sum + after.pending := by
  induction visions generalizing screen with
  | nil => simp at present
  | cons first rest ih =>
      cases screen with
      | zero =>
          simp only [List.getElem?_cons_zero, Option.some.injEq] at present
          subst first
          simp only [List.set_cons_zero, List.map_cons, List.sum_cons]
          omega
      | succ screen =>
          have within : rest[screen]? = some before := by simpa using present
          have later := ih within
          simp only [List.set_cons_succ, List.map_cons, List.sum_cons]
          omega

theorem leaves_speech (app : App) (requests : List SpeechManager.Output) :
    ((requests.filterMap app.speechCall).map leaves).sum ≤
      (requests.map SpeechManager.asks).sum := by
  induction requests with
  | nil => simp
  | cons request requests ih =>
      cases request with
      | visionDelegate asked =>
          cases isDelegate : app.visionDelegate with
          | none => simp [speechCall, isDelegate, SpeechManager.asks]; omega
          | some receiver => simp [speechCall, isDelegate, SpeechManager.asks, leaves]; omega
      | playSystemSound => simpa [List.filterMap_cons, speechCall, SpeechManager.asks] using ih
      | inputs locationName locationPlacemark =>
          simpa [List.filterMap_cons, speechCall, SpeechManager.asks] using ih

theorem callsWork_speech (app : App) (requests : List SpeechManager.Output) :
    callsWork (requests.filterMap app.speechCall) ≤ (requests.map SpeechManager.asks).sum := by
  have silent : (requests.filterMap app.speechCall).any speaks = false := by
    rw [List.any_eq_false]
    intro call callMem
    rcases delegate_of_speechCall callMem with ⟨receiver, asked, _, rfl⟩
    simp [speaks]
  simp only [callsWork, silent, Bool.false_eq_true, if_false, Nat.zero_add]
  exact leaves_speech app requests

/-- What the calls of a location callback leave behind. A batch of fixes calls nobody. -/
def locationWork : LocationManager.Event → ℕ
  | .didUpdateLocations _ => 0
  | _ => 2

def homeWork : HomeViewController.Event → ℕ
  | .swipe _ => 5
  | .tap => 4
  | .longPress | .filterLocationList _ | .searchCompleted _ _ => 2
  | _ => 0

def visionWork : VisionViewController.Event → ℕ
  | .swipe _ => 5
  | .tap => 3
  | .displayBlock => 2
  | _ => 0

theorem callsWork_location {before after : LocationManager} {event : LocationManager.Event}
    {requests : List LocationManager.Output}
    (reaction : LocationManager.Reaction before event after requests) :
    callsWork (requests.map locationCall) ≤ locationWork event := by
  have nothing : ((requests.map locationCall).map leaves).sum = 0 := by
    clear reaction
    induction requests with
    | nil => rfl
    | cons request requests ih => cases request <;> simpa [locationCall, leaves] using ih
  have spoken : callsWork (requests.map locationCall) ≤ 2 := by
    simp only [callsWork, nothing]
    split <;> omega
  cases reaction with
  | didUpdateLocations updated => exact le_rfl
  | _ => exact spoken

theorem callsWork_home {event : HomeViewController.Event}
    {requests : List HomeViewController.Output} (asks : HomeViewController.Asks event requests) :
    callsWork (requests.map homeCall) ≤ homeWork event := by
  cases asks with
  | nothing notGesture => exact Nat.zero_le _
  | announcement announces message =>
      cases event with
      | filterLocationList filterInput => exact le_rfl
      | searchCompleted index mapItems => exact le_rfl
      | _ => simp [HomeViewController.announcesSelection] at announces
  | selection direction message row vertical => simp [callsWork, homeCall, speaks, leaves, homeWork]
  | segue opens => exact Nat.zero_le _
  | save => exact le_rfl
  | whereAmI => exact le_rfl
  | prompt => exact le_rfl

theorem callsWork_vision {event : VisionViewController.Event}
    {requests : List VisionViewController.Output}
    (asks : VisionViewController.Asks event requests) :
    callsWork (requests.map visionCall) ≤ visionWork event := by
  cases asks with
  | nothing notSave notLeave => exact Nat.zero_le _
  | save => exact le_rfl
  | leave => simp [callsWork, visionCall, speaks, leaves, visionWork]
  | whereAmI => exact le_rfl
  | detection message => exact le_rfl

/-- What a callback leaves behind, with what its calls will leave, is paid by what it was. -/
theorem delivered_work {before middle : App} {event : Event} {calls : List Call}
    (delivered : Delivered before event middle calls) :
    middle.workload + callsWork calls + (isCallback event).toNat ≤
      before.workload + 6 * (!isCallback event).toNat := by
  cases delivered with
  | launch notLaunched =>
      have appeared : ({ before with stack := [.home] } : App).homeViewWillAppear.workload =
          before.workload := rfl
      simp [appeared, callsWork, isCallback]
  | @home event home requests isEnabled handled =>
      have outstanding : before.home.enabled event = true := by
        cases event <;> simp_all [enabledHome, HomeViewController.enabled]
      have paid := HomeViewController.pending_reaction outstanding
        (HomeViewController.reaction_of_handle handled)
      have called := callsWork_home (HomeViewController.asks_of_handle handled)
      have priced : HomeViewController.brings event + homeWork event +
          (isCallback (.home event)).toNat ≤
            HomeViewController.spends event + 6 * (!isCallback (.home event)).toNat := by
        cases event <;>
          simp [HomeViewController.brings, HomeViewController.spends, homeWork, isCallback]
      simp only [workload]
      omega
  | @vision screen event controller reached requests asked present isEnabled handled received =>
      have outstanding : controller.enabled event = true := by
        cases event <;> simp_all [enabledVision, VisionViewController.enabled]
      have paid := VisionViewController.pending_handle outstanding handled
      have called := callsWork_vision
        (asks_of_unlessGone (VisionViewController.asks_of_handle handled) received)
      have replaced := sum_pending_set present reached
      have priced : VisionViewController.brings event + visionWork event +
          (isCallback (.vision screen event)).toNat ≤
            VisionViewController.spends event + 6 * (!isCallback (.vision screen event)).toNat := by
        cases event <;>
          simp [VisionViewController.brings, VisionViewController.spends, visionWork, isCallback]
      simp only [workload]
      omega
  | back covered => simp [callsWork, isCallback, speaks, leaves]
  | @speech event isEnabled received =>
      have outstanding : before.speechManager.enabled event = true := by
        cases event <;> simp_all [enabledSpeech]
      have notCall (message : String) (commandType : VoiceCommand) :
          event ≠ .voiceOutput message commandType := by
        rintro rfl
        simp [enabledSpeech] at isEnabled
      have notAsked : event ≠ .inputsToSaveLocation := by
        rintro rfl
        simp [enabledSpeech] at isEnabled
      have paid := SpeechManager.pending_handle outstanding notCall notAsked
      have called := callsWork_speech before (before.speechManager.handle event).2
      have priced : SpeechManager.brings event + (isCallback (.speech event)).toNat ≤
          SpeechManager.spends event + 6 * (!isCallback (.speech event)).toNat := by
        cases event <;> simp [SpeechManager.brings, SpeechManager.spends, isCallback]
      simp only [workload]
      omega
  | @location event manager requests isEnabled handled =>
      have outstanding : before.locationManager.enabled event = true := by
        cases event <;> simp_all [enabledLocation]
      have reaction := LocationManager.reaction_of_handle handled
      have paid := LocationManager.pending_reaction outstanding reaction
      have called := callsWork_location reaction
      have priced : LocationManager.brings event + locationWork event +
          (isCallback (.location event)).toNat ≤
            LocationManager.spends event + 6 * (!isCallback (.location event)).toNat := by
        cases event <;>
          simp [LocationManager.brings, LocationManager.spends, locationWork, isCallback]
      simp only [workload]
      omega
  | whereAmIBlock pending =>
      simp only [workload, callsWork, isCallback, List.any_cons, speaks, List.map_cons, leaves]
      simp
      omega

def workAccount {realm : RealmManager} {app : App}
    (reached : machine.Reachable (start realm) app) : Account machine app where
  balance := workload
  earns event := 6 * (!isCallback event).toNat
  spends event := (isCallback event).toNat
  covered := by
    rintro before event after outputs ⟨events, run⟩ step
    rcases reached with ⟨earlier, earlierRun⟩
    have navigated := navigated_of_reachable (earlierRun.trans run).reachable
    rcases delivered_of_step navigated step with ⟨middle, calls, delivered, carried⟩
    have paid := delivered_work delivered
    have called := workload_carryOutAll middle calls
    simp only [carried] at called
    omega

/-- From any state the app reaches, a continuation runs no more callbacks than the workload of the
state and six for every event from outside. Without such events it ends. -/
theorem callbacks_le_workload {realm : RealmManager} {app finish : App} {events : List Event}
    (reached : machine.Reachable (start realm) app) (run : machine.Run app events finish) :
    events.countP isCallback + finish.workload ≤
      app.workload + 6 * events.countP (fun event => !isCallback event) := by
  have covered := (workAccount reached).run_covered run
  simp only [workAccount, tally_const_mul, tally_toNat] at covered
  omega

def afterSave : List Event :=
  [.speech (.didFinish true), .speech .gateTimer, .speech .namePromptBlock,
    .speech (.didFinish true), .speech .gateTimer]

theorem afterSave_bounded :
    ∃ app finish, machine.Reachable (start {}) app ∧ machine.Run app afterSave finish ∧
      afterSave.countP isCallback + finish.workload ≤
        app.workload + 6 * afterSave.countP (fun event => !isCallback event) := by
  have reached : machine.Reachable (start {})
      ((machine.exec (start {}) [.launch, .home (.swipe .left)]).getD {}) :=
    ⟨[.launch, .home (.swipe .left)], .of_exec rfl⟩
  have run : machine.Run ((machine.exec (start {}) [.launch, .home (.swipe .left)]).getD {})
      afterSave
      ((machine.exec (start {}) ([.launch, .home (.swipe .left)] ++ afterSave)).getD {}) :=
    .of_exec rfl
  exact ⟨_, _, reached, run, callbacks_le_workload reached run⟩

end App

end VisionApp
