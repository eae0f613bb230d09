import VisionApp.App.Calls
import VisionApp.EventMachine.Component
import VisionApp.Location.Positions

/-!
# The app as the composition of its components

Each component of the app runs on its own machine: its callbacks are the events
of the app that are meant for it, and between them the other components only
call it. A run of the app is therefore a run of every component, with the
callbacks in the order of the app's events.
-/

namespace VisionApp

open EventMachine

namespace SpeechManager

/-- What other components call. -/
def isCall : Event → Bool
  | .voiceOutput _ _ | .inputsToSaveLocation => true
  | _ => false

abbrev CalledOnly : SpeechManager → SpeechManager → Prop :=
  Called machine isCall

theorem calledOnly_voiceOutput (manager : SpeechManager) (message : String)
    (commandType : VoiceCommand) :
    CalledOnly manager (manager.voiceOutput message commandType) := by
  apply Called.single (.voiceOutput message commandType) rfl
  exact machine_step_iff.mpr ⟨rfl, rfl⟩

theorem calledOnly_inputsToSaveLocation (manager : SpeechManager) :
    CalledOnly manager manager.inputsToSaveLocation.1 := by
  apply Called.single .inputsToSaveLocation rfl
  exact machine_step_iff.mpr ⟨rfl, rfl⟩

end SpeechManager

namespace LocationManager

def isCall : Event → Bool
  | .visionWillAppear _ | .getUserLocatoin => true
  | _ => false

abbrev CalledOnly : LocationManager → LocationManager → Prop :=
  Called machine isCall

theorem calledOnly_getUserLocatoin (manager : LocationManager) :
    CalledOnly manager manager.getUserLocatoin := by
  apply Called.single .getUserLocatoin rfl
  exact ⟨rfl, rfl⟩

end LocationManager

namespace LocationStore

/-- The screens save, and all else happens to the location manager. -/
def isCall : Event → Bool
  | .location event => LocationManager.isCall event
  | .saveCurrentLocation _ => true

abbrev CalledOnly : LocationStore → LocationStore → Prop :=
  Called machine isCall

theorem step_location {store : LocationStore} {event : LocationManager.Event}
    {after : LocationManager} {outputs : List LocationManager.Output}
    (step : LocationManager.machine.Step store.locationManager event after outputs) :
    machine.Step store (.location event) { store with locationManager := after }
      (outputs.map Output.location) := by
  refine ⟨step.1, ?_⟩
  have handled : store.locationManager.handle event = .ok (after, outputs) := step.2
  simp only [machine, handle, handled]
  rfl

end LocationStore

namespace HomeViewController

def isCall : Event → Bool
  | .viewWillAppear _ => true
  | _ => false

abbrev CalledOnly : HomeViewController → HomeViewController → Prop :=
  Called machine isCall

theorem calledOnly_viewWillAppear (home : HomeViewController) (saved : List LocationModel) :
    CalledOnly home (home.viewWillAppear saved) := by
  apply Called.single (.viewWillAppear saved) rfl
  exact ⟨rfl, rfl⟩

end HomeViewController

namespace App

section Calls

theorem speech_carried {before after : App} {call : Call} (carried : Carried before call after) :
    before.speechManager.CalledOnly after.speechManager := by
  cases carried with
  | spoken message commandType => exact SpeechManager.calledOnly_voiceOutput _ message commandType
  | notified nexStep => exact SpeechManager.calledOnly_voiceOutput _ nexStep .voiceCommandInfo
  | saved =>
      exact (SpeechManager.calledOnly_inputsToSaveLocation _).trans
        (SpeechManager.calledOnly_voiceOutput _ "Location Saved successfully " .voiceCommandInfo)
  | _ => exact .refl

theorem location_carried {before after : App} {call : Call} (carried : Carried before call after) :
    before.locationManager.CalledOnly after.locationManager := by
  cases carried with
  | located => exact LocationManager.calledOnly_getUserLocatoin _
  | _ => exact .refl

/-- The location manager of the app, with the store. -/
def locationStore (app : App) : LocationStore where
  locationManager := app.locationManager
  realm := app.realm

/-- Saving a location is a call of the location manager with the store. -/
theorem store_carried {before after : App} {call : Call} (carried : Carried before call after) :
    before.locationStore.CalledOnly after.locationStore := by
  cases carried with
  | saved =>
      exact Called.single (.saveCurrentLocation before.speechManager.inputsToSaveLocation.2) rfl
        ⟨rfl, rfl⟩
  | located => exact Called.single (.location .getUserLocatoin) rfl ⟨rfl, rfl⟩
  | _ => exact .refl

theorem home_carried {before after : App} {call : Call} (carried : Carried before call after) :
    before.home.CalledOnly after.home := by
  cases carried with
  | popped => exact HomeViewController.calledOnly_viewWillAppear _ _
  | _ => exact .refl

theorem speech_carryOutAll (app : App) (calls : List Call) :
    app.speechManager.CalledOnly (app.carryOutAll calls).1.speechManager :=
  carryOutAll_related (fun before after =>
    before.speechManager.CalledOnly after.speechManager)
    (fun _ => .refl) .trans (fun _ carried => speech_carried carried)

theorem location_carryOutAll (app : App) (calls : List Call) :
    app.locationManager.CalledOnly (app.carryOutAll calls).1.locationManager :=
  carryOutAll_related (fun before after =>
    before.locationManager.CalledOnly after.locationManager)
    (fun _ => .refl) .trans (fun _ carried => location_carried carried)

theorem store_carryOutAll (app : App) (calls : List Call) :
    app.locationStore.CalledOnly (app.carryOutAll calls).1.locationStore :=
  carryOutAll_related (fun before after => before.locationStore.CalledOnly after.locationStore)
    (fun _ => .refl) .trans (fun _ carried => store_carried carried)

theorem home_carryOutAll (app : App) (calls : List Call) :
    app.home.CalledOnly (app.carryOutAll calls).1.home :=
  carryOutAll_related (fun before after => before.home.CalledOnly after.home)
    (fun _ => .refl) .trans (fun _ carried => home_carried carried)

end Calls

section Callbacks

def speechCallback : Event → Option SpeechManager.Event
  | .speech event => some event
  | _ => none

def locationCallback : Event → Option LocationManager.Event
  | .location event => some event
  | _ => none

def storeCallback (event : Event) : Option LocationStore.Event :=
  (locationCallback event).map LocationStore.Event.location

def homeCallback : Event → Option HomeViewController.Event
  | .home event => some event
  | _ => none

def visionCallback (screen : ℕ) : Event → Option VisionViewController.Event
  | .vision onScreen event => if onScreen = screen then some event else none
  | _ => none

theorem speech_enabled {app : App} {event : SpeechManager.Event}
    (isEnabled : app.enabledSpeech event = true) :
    app.speechManager.enabled event = true ∧ SpeechManager.isCall event = false := by
  cases event <;> simp_all [enabledSpeech, SpeechManager.isCall]

theorem location_enabled {app : App} {event : LocationManager.Event}
    (isEnabled : app.enabledLocation event = true) :
    app.locationManager.enabled event = true ∧ LocationManager.isCall event = false := by
  cases event <;> simp_all [enabledLocation, LocationManager.isCall]

theorem home_enabled {app : App} {event : HomeViewController.Event}
    (isEnabled : app.enabledHome event = true) :
    app.home.enabled event = true ∧ HomeViewController.isCall event = false := by
  cases event <;>
    simp_all [enabledHome, HomeViewController.enabled, HomeViewController.isCall]

theorem vision_enabled {app : App} {screen : ℕ} {controller : VisionViewController}
    {event : VisionViewController.Event} (present : app.visions[screen]? = some controller)
    (isEnabled : app.enabledVision screen event = true) : controller.enabled event = true := by
  cases event <;>
    simp_all [enabledVision, VisionViewController.enabled]

end Callbacks

section Components

variable (realm : RealmManager)

def speechComponent : Component machine SpeechManager.machine (start realm) where
  view := App.speechManager
  callback := speechCallback
  isCall := SpeechManager.isCall
  follows := by
    intro before event after outputs reached step
    rcases delivered_of_step (navigated_of_reachable reached) step with
      ⟨middle, calls, delivered, carried⟩
    have called := speech_carryOutAll middle calls
    rw [carried] at called
    cases delivered with
    | speech isEnabled received =>
        rcases speech_enabled isEnabled with ⟨outstanding, notCall⟩
        exact called.after_callback notCall (SpeechManager.machine_step_iff.mpr ⟨outstanding, rfl⟩)
    | launch notLaunched => exact called.without_callback
    | home isEnabled handled => exact called.without_callback
    | vision present isEnabled handled received => exact called.without_callback
    | back covered => exact called.without_callback
    | location isEnabled handled => exact called.without_callback
    | whereAmIBlock pending => exact called.without_callback

def locationComponent : Component machine LocationManager.machine (start realm) where
  view := App.locationManager
  callback := locationCallback
  isCall := LocationManager.isCall
  follows := by
    intro before event after outputs reached step
    rcases delivered_of_step (navigated_of_reachable reached) step with
      ⟨middle, calls, delivered, carried⟩
    have called := location_carryOutAll middle calls
    rw [carried] at called
    cases delivered with
    | location isEnabled handled =>
        rcases location_enabled isEnabled with ⟨outstanding, notCall⟩
        exact called.after_callback notCall ⟨outstanding, handled⟩
    | launch notLaunched => exact called.without_callback
    | home isEnabled handled => exact called.without_callback
    | vision present isEnabled handled received => exact called.without_callback
    | back covered => exact called.without_callback
    | speech isEnabled received => exact called.without_callback
    | whereAmIBlock pending => exact called.without_callback

def storeComponent : Component machine LocationStore.machine (start realm) where
  view := App.locationStore
  callback := storeCallback
  isCall := LocationStore.isCall
  follows := by
    intro before event after outputs reached step
    rcases delivered_of_step (navigated_of_reachable reached) step with
      ⟨middle, calls, delivered, carried⟩
    have called := store_carryOutAll middle calls
    rw [carried] at called
    cases delivered with
    | @location event manager requests isEnabled handled =>
        rcases location_enabled isEnabled with ⟨outstanding, notCall⟩
        have stepped : LocationManager.machine.Step before.locationStore.locationManager event
            manager requests := ⟨outstanding, handled⟩
        exact called.after_callback notCall (LocationStore.step_location stepped)
    | launch notLaunched => exact called.without_callback
    | home isEnabled handled => exact called.without_callback
    | vision present isEnabled handled received => exact called.without_callback
    | back covered => exact called.without_callback
    | speech isEnabled received => exact called.without_callback
    | whereAmIBlock pending => exact called.without_callback

def homeComponent : Component machine HomeViewController.machine (start realm) where
  view := App.home
  callback := homeCallback
  isCall := HomeViewController.isCall
  follows := by
    intro before event after outputs reached step
    rcases delivered_of_step (navigated_of_reachable reached) step with
      ⟨middle, calls, delivered, carried⟩
    have called := home_carryOutAll middle calls
    rw [carried] at called
    cases delivered with
    | home isEnabled handled =>
        rcases home_enabled isEnabled with ⟨outstanding, notCall⟩
        exact called.after_callback notCall ⟨outstanding, handled⟩
    | launch notLaunched =>
        have appeared := HomeViewController.calledOnly_viewWillAppear before.home
          before.realm.getLocationList
        exact (appeared.trans called).without_callback
    | vision present isEnabled handled received => exact called.without_callback
    | back covered => exact called.without_callback
    | speech isEnabled received => exact called.without_callback
    | location isEnabled handled => exact called.without_callback
    | whereAmIBlock pending => exact called.without_callback

end Components

section Screens

/-- A vision screen as the segue shows it. -/
def walking : VisionViewController :=
  ({} : VisionViewController).viewWillAppear.1

theorem visions_carried {before after : App} {call : Call} (carried : Carried before call after) :
    ∃ count, after.visions = before.visions ++ List.replicate count walking := by
  have unchanged (same : after.visions = before.visions) :
      ∃ count, after.visions = before.visions ++ List.replicate count walking :=
    ⟨0, by simpa using same⟩
  cases carried with
  | shown => exact ⟨1, rfl⟩
  | _ => exact unchanged rfl

theorem visions_carryOutAll (app : App) (calls : List Call) :
    ∃ count, (app.carryOutAll calls).1.visions = app.visions ++ List.replicate count walking := by
  apply carryOutAll_related (fun before after => ∃ count,
    after.visions = before.visions ++ List.replicate count walking)
  · intro app
    exact ⟨0, by simp⟩
  · rintro before middle after ⟨first, shown⟩ ⟨second, shownLater⟩
    refine ⟨first + second, ?_⟩
    rw [shownLater, shown, List.append_assoc, List.replicate_add]
  · intro before after call _ carried
    exact visions_carried carried

/-- What happened to a screen so far, if it has been shown. -/
def Screened (events : List VisionViewController.Event) : Option VisionViewController → Prop
  | some controller => VisionViewController.machine.Run walking events controller
  | none => events = []

theorem screened_append {visions : List VisionViewController} {screen : ℕ}
    {events : List VisionViewController.Event} (screened : Screened events visions[screen]?)
    (count : ℕ) : Screened events (visions ++ List.replicate count walking)[screen]? := by
  cases present : visions[screen]? with
  | some controller =>
      have bound := (List.getElem?_eq_some_iff.mp present).1
      rw [List.getElem?_append_left bound]
      exact screened
  | none =>
      rw [present] at screened
      have nothing : events = [] := screened
      have bound := List.getElem?_eq_none_iff.mp present
      rw [List.getElem?_append_right bound, List.getElem?_replicate, nothing]
      split
      · exact .refl
      · rfl

/-- Every vision screen, also one that is gone, has taken the steps that its own events ask for. -/
theorem screened_run {realm : RealmManager} {events : List Event} {app : App}
    (run : machine.Run (start realm) events app) (screen : ℕ) :
    Screened (events.filterMap (visionCallback screen)) app.visions[screen]? := by
  induction run with
  | refl => exact rfl
  | @snoc events before after event outputs earlier step ih =>
      rcases delivered_of_step (navigated_of_reachable earlier.reachable) step with
        ⟨middle, calls, delivered, carried⟩
      rcases visions_carryOutAll middle calls with ⟨count, shown⟩
      rw [carried] at shown
      rw [shown]
      apply screened_append
      rw [List.filterMap_append]
      cases delivered with
      | @vision onScreen event controller reached requests asked present isEnabled handled
          received =>
          by_cases same : onScreen = screen
          · subst onScreen
            rw [present] at ih
            have bound := (List.getElem?_eq_some_iff.mp present).1
            simp only [visionCallback, List.filterMap_cons, if_true, List.filterMap_nil,
              List.getElem?_set_self bound]
            exact .snoc ih ⟨vision_enabled present isEnabled, handled⟩
          · simpa [visionCallback, same, List.filterMap_cons, List.getElem?_set_ne same] using ih
      | launch notLaunched =>
          simpa [visionCallback, List.filterMap_cons, homeViewWillAppear] using ih
      | home isEnabled handled => simpa [visionCallback, List.filterMap_cons] using ih
      | back covered => simpa [visionCallback, List.filterMap_cons] using ih
      | speech isEnabled received => simpa [visionCallback, List.filterMap_cons] using ih
      | location isEnabled handled => simpa [visionCallback, List.filterMap_cons] using ih
      | whereAmIBlock pending => simpa [visionCallback, List.filterMap_cons] using ih

end Screens

/-- Every run of the app is a run of each of its components, in which the callbacks are the events
of the app for that component in the same order, and all else is calls from other components. -/
theorem run_components {realm : RealmManager} {events : List Event} {app : App}
    (run : machine.Run (start realm) events app) :
    (∃ speechEvents,
      SpeechManager.machine.Run {} speechEvents app.speechManager ∧
        speechEvents.filter (fun event => !SpeechManager.isCall event) =
          events.filterMap speechCallback) ∧
      (∃ locationEvents,
        LocationManager.machine.Run {} locationEvents app.locationManager ∧
          locationEvents.filter (fun event => !LocationManager.isCall event) =
            events.filterMap locationCallback) ∧
      (∃ storeEvents,
        LocationStore.machine.Run { realm := realm } storeEvents app.locationStore ∧
          storeEvents.filter (fun event => !LocationStore.isCall event) =
            events.filterMap storeCallback) ∧
      (∃ homeEvents,
        HomeViewController.machine.Run {} homeEvents app.home ∧
          homeEvents.filter (fun event => !HomeViewController.isCall event) =
            events.filterMap homeCallback) ∧
      ∀ screen, ∀ controller, app.visions[screen]? = some controller →
        VisionViewController.machine.Run walking (events.filterMap (visionCallback screen))
          controller := by
  refine ⟨(speechComponent realm).run run, (locationComponent realm).run run,
    (storeComponent realm).run run, (homeComponent realm).run run, ?_⟩
  intro screen controller present
  have screened := screened_run run screen
  rw [present] at screened
  exact screened

def listenWhileWalking : List Event :=
  [.launch, .home .longPress, .home (.swipe .right), .vision 0 .tap, .speech (.didFinish true)]

/-- The speech manager was told that its prompt ended, the screen of the tap on it. -/
theorem listenWhileWalking_components :
    ∃ app, machine.Run (start {}) listenWhileWalking app ∧
      (∃ speechEvents, SpeechManager.machine.Run {} speechEvents app.speechManager ∧
        speechEvents.filter (fun event => !SpeechManager.isCall event) = [.didFinish true]) ∧
      ∀ controller, app.visions[0]? = some controller →
        VisionViewController.machine.Run walking [.tap] controller := by
  have run : machine.Run (start {}) listenWhileWalking
      ((machine.exec (start {}) listenWhileWalking).getD {}) := .of_exec rfl
  have components := run_components run
  exact ⟨_, run, components.1, components.2.2.2.2 0⟩

end App

end VisionApp
