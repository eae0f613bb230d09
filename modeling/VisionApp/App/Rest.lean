import VisionApp.App.Composition
import VisionApp.App.Workload
import VisionApp.SpeechKit.Accounts
import VisionApp.ViewController.Classification
import VisionApp.ViewController.SearchThrottle

/-!
# The app at rest

The app closes three kinds of flags and relies on callbacks to open them again:
the gate of the speech manager on its timer, the throttle of the search bar on
the search timer, the buffer of a screen on the end of its task. No callback has
to wait for another one, or for the user. So the callbacks alone bring the app to
rest, with all of these open. Only an action on a command may stay behind, if
there has been no screen that could receive it.

The flag `listeningSempahor` is not among them: nothing reopens it.
-/

namespace VisionApp

open EventMachine

/-- The throttle of the search bar is coupled to its timer whoever drives the screen. -/
theorem HomeViewController.throttle_oneShot {home : HomeViewController}
    (reached : machine.Reachable {} home) :
    OneShot home.searchEditingSemaphor home.searchTimers := by
  rcases reached with ⟨events, run⟩
  rcases run.record ({} : EditHistory) with ⟨history, observedRun⟩
  have initially : Throttled ({}, {}) := ⟨OneShot.initial, fun _ => Or.inl rfl⟩
  exact (observedRun.invariant throttled_preserved initially).coupled

namespace App

/-- Nothing that is outstanding can happen. -/
def Exhausted (app : App) : Prop :=
  ∀ event after outputs, isCallback event = true → ¬machine.Step app event after outputs

structure AtRest (app : App) : Prop where
  gate : app.speechManager.voiceInteractorSemaphor = true
  silent : app.speechManager.synthesizer = []
  namePrompts : app.speechManager.namePrompts = 0
  /-- An action is only left behind when nobody could receive its command. -/
  actions : 0 < app.speechManager.actionTimers → app.visionDelegate = none
  throttle : app.home.searchEditingSemaphor = true
  searches : app.home.searches = []
  directions : app.locationManager.directions = []
  geocodes : app.locationManager.geocodes = []
  whereAmIBlocks : app.whereAmIBlocks = 0
  /-- On every vision screen ever made, whether or not it still exists. -/
  screens : ∀ controller ∈ app.visions,
    controller.currentBuffer = none ∧ controller.visionQueue = [] ∧ controller.displayBlocks = 0

namespace Exhausted

variable {app : App}

/-- A callback that would be handled without a fault is not outstanding. -/
theorem not_enabled (exhausted : app.Exhausted) (event : Event) {after : App × List Output}
    (callback : isCallback event = true) (handled : app.handle event = .ok after) :
    app.enabled event = false := by
  rw [← Bool.not_eq_true]
  intro isEnabled
  exact exhausted event after.1 after.2 callback ⟨isEnabled, handled⟩

theorem speech (exhausted : app.Exhausted) (navigated : app.Navigated)
    (event : SpeechManager.Event) (callback : isCallback (.speech event) = true)
    (received : (app.speechManager.handle event).2.any app.unreceived = false) :
    app.enabledSpeech event = false := by
  have ran := runSpeech_eq navigated event
  rw [received] at ran
  exact exhausted.not_enabled _ callback ran

theorem home (exhausted : app.Exhausted) (event : HomeViewController.Event)
    {handled : HomeViewController × List HomeViewController.Output}
    (callback : isCallback (.home event) = true) (isHandled : app.home.handle event = .ok handled) :
    app.enabledHome event = false := by
  have ran := runHome_eq app event
  rw [isHandled] at ran
  exact exhausted.not_enabled _ callback ran

theorem location (exhausted : app.Exhausted) (event : LocationManager.Event)
    {handled : LocationManager × List LocationManager.Output}
    (callback : isCallback (.location event) = true)
    (isHandled : app.locationManager.handle event = .ok handled) :
    app.enabledLocation event = false := by
  have ran := runLocation_eq app event
  rw [isHandled] at ran
  exact exhausted.not_enabled _ callback ran

theorem vision (exhausted : app.Exhausted) {screen : ℕ} {controller : VisionViewController}
    (present : app.visions[screen]? = some controller) (event : VisionViewController.Event)
    {handled : VisionViewController × List VisionViewController.Output}
    (callback : isCallback (.vision screen event) = true)
    (isHandled : controller.handle event = .ok handled) :
    app.enabledVision screen event = false := by
  have ran := runVision_eq present event
  rw [isHandled] at ran
  exact exhausted.not_enabled _ callback ran

theorem synthesizer_eq_nil (exhausted : app.Exhausted) (navigated : app.Navigated) :
    app.speechManager.synthesizer = [] := by
  have disabled := exhausted.speech navigated (.didFinish true) rfl (by
    simp only [SpeechManager.handle]
    split <;> rfl)
  simpa [enabledSpeech, SpeechManager.enabled] using disabled

theorem gateTimers_eq_zero (exhausted : app.Exhausted) (navigated : app.Navigated) :
    app.speechManager.gateTimers = 0 := by
  have disabled := exhausted.speech navigated .gateTimer rfl rfl
  simpa [enabledSpeech, SpeechManager.enabled] using disabled

theorem namePrompts_eq_zero (exhausted : app.Exhausted) (navigated : app.Navigated) :
    app.speechManager.namePrompts = 0 := by
  have disabled := exhausted.speech navigated .namePromptBlock rfl rfl
  simpa [enabledSpeech, SpeechManager.enabled] using disabled

/-- With a delegate every action can run. -/
theorem actionTimers_eq_zero (exhausted : app.Exhausted) (navigated : app.Navigated)
    {receiver : Controller} (isDelegate : app.visionDelegate = some receiver) :
    app.speechManager.actionTimers = 0 := by
  have disabled := exhausted.speech navigated .voiceInputAction rfl (by
    rw [List.any_eq_false]
    intro request _
    cases request <;> simp [unreceived, isDelegate])
  simpa [enabledSpeech, SpeechManager.enabled] using disabled

theorem searchTimers_eq_zero (exhausted : app.Exhausted) : app.home.searchTimers = 0 := by
  have disabled := exhausted.home (.searchTimer app.realm.getLocationList) rfl rfl
  simpa [enabledHome, HomeViewController.enabled] using disabled

/-- A search without a response ends at once. -/
theorem searches_eq_nil (exhausted : app.Exhausted) : app.home.searches = [] := by
  have unanswered : app.home.handle (.searchCompleted 0 none) =
      .ok ({ app.home with searches := app.home.searches.eraseIdx 0 }, []) := by
    simp only [HomeViewController.handle, HomeViewController.searchCompleted]
    cases app.home.searches[0]? with
    | none => rfl
    | some search => rfl
  have disabled := exhausted.home (.searchCompleted 0 none) rfl unanswered
  simpa [enabledHome, HomeViewController.enabled] using disabled

theorem directions_eq_nil (exhausted : app.Exhausted) : app.locationManager.directions = [] := by
  have disabled := exhausted.location (.directionsCompleted 0 none) rfl rfl
  simpa [enabledLocation, LocationManager.enabled] using disabled

theorem geocodes_eq_nil (exhausted : app.Exhausted) : app.locationManager.geocodes = [] := by
  have disabled := exhausted.location (.geocoded 0 (some [])) rfl rfl
  simpa [enabledLocation, LocationManager.enabled] using disabled

theorem whereAmIBlocks_eq_zero (exhausted : app.Exhausted) : app.whereAmIBlocks = 0 := by
  have disabled := exhausted.not_enabled .whereAmIBlock rfl rfl
  simpa [enabled] using disabled

theorem visionQueue_eq_nil (exhausted : app.Exhausted) {screen : ℕ}
    {controller : VisionViewController} (present : app.visions[screen]? = some controller) :
    controller.visionQueue = [] := by
  have disabled := exhausted.vision present .taskEnded rfl rfl
  simpa [enabledVision, present, VisionViewController.enabled] using disabled

/-- The block runs also when its screen is gone. -/
theorem displayBlocks_eq_zero (exhausted : app.Exhausted) {screen : ℕ}
    {controller : VisionViewController} (present : app.visions[screen]? = some controller) :
    controller.displayBlocks = 0 := by
  have disabled := exhausted.vision present .displayBlock rfl rfl
  simpa [enabledVision, present, VisionViewController.enabled] using disabled

end Exhausted

theorem atRest_of_exhausted {realm : RealmManager} {app : App}
    (reached : machine.Reachable (start realm) app) (exhausted : app.Exhausted) : app.AtRest := by
  have navigated := navigated_of_reachable reached
  have gate := SpeechManager.gate_oneShot ((speechComponent realm).reachable reached)
  have throttle := HomeViewController.throttle_oneShot ((homeComponent realm).reachable reached)
  simp only [speechComponent, exhausted.gateTimers_eq_zero navigated] at gate
  simp only [homeComponent, exhausted.searchTimers_eq_zero] at throttle
  refine {
    gate := ?_
    silent := exhausted.synthesizer_eq_nil navigated
    namePrompts := exhausted.namePrompts_eq_zero navigated
    actions := ?_
    throttle := ?_
    searches := exhausted.searches_eq_nil
    directions := exhausted.directions_eq_nil
    geocodes := exhausted.geocodes_eq_nil
    whereAmIBlocks := exhausted.whereAmIBlocks_eq_zero
    screens := ?_ }
  · by_contra closed
    rw [Bool.not_eq_true] at closed
    rw [closed] at gate
    exact gate.pending_ne_zero rfl
  · intro pending
    by_contra received
    rcases Option.ne_none_iff_exists'.mp received with ⟨receiver, isDelegate⟩
    have none := exhausted.actionTimers_eq_zero navigated isDelegate
    omega
  · by_contra closed
    rw [Bool.not_eq_true] at closed
    rw [closed] at throttle
    exact throttle.pending_ne_zero rfl
  · intro controller controllerMem
    rcases List.getElem?_of_mem controllerMem with ⟨screen, present⟩
    have queue := exhausted.visionQueue_eq_nil present
    rcases reached with ⟨events, run⟩
    have screened := screened_run run screen
    rw [present] at screened
    have initially : VisionViewController.Serialized walking := rfl
    have serialized := Machine.Run.invariant VisionViewController.serialized_preserved initially
      screened
    rw [VisionViewController.Serialized.iff_buffers, queue] at serialized
    exact ⟨by simpa using serialized.symm, queue, exhausted.displayBlocks_eq_zero present⟩

/-- From every reachable state, callbacks alone can bring the app to rest: all is said, no request,
prompt, task or block is outstanding, also of a screen that is gone, and the gate, the throttle and
every buffer are open. -/
theorem comes_to_rest {realm : RealmManager} {app : App}
    (reached : machine.Reachable (start realm) app) :
    ∃ events finish, machine.Run app events finish ∧
      (∀ event ∈ events, isCallback event = true) ∧ finish.AtRest := by
  have costs : ∀ event, isCallback event = true →
      (workAccount reached).earns event < (workAccount reached).spends event := by
    intro event callback
    simp [workAccount, callback]
  rcases (workAccount reached).exhausted_of_reachable costs (.refl app) with
    ⟨events, finish, run, areCallbacks, exhausted⟩
  refine ⟨events, finish, run, areCallbacks, ?_⟩
  rcases reached with ⟨earlier, earlierRun⟩
  exact atRest_of_exhausted (earlierRun.trans run).reachable exhausted

/-- A walk begun while the search timer was pending, on which a frame was classified and an address
asked for. The next walk has begun before the block for the result of the first has run, and the
task of the first screen has ended, so that screen is gone. -/
def busyWalk : List Event :=
  [.launch, .home (.textDidChange "Lo"), .home (.textDidChange ""), .home (.swipe .right),
    .vision 0 (.sessionDidUpdate 1 true 1), .vision 0 .tap,
    .vision 0 (.taskPerformed (some []) none), .back, .home (.swipe .right), .vision 0 .taskEnded]

theorem busyWalk_rests :
    ∃ app, machine.Run (start {}) busyWalk app ∧ app.home.searchEditingSemaphor = false ∧
      app.isAlive 0 = false ∧ app.visions.map VisionViewController.displayBlocks = [1, 0] ∧
      ∃ events finish, machine.Run app events finish ∧
        (∀ event ∈ events, isCallback event = true) ∧ finish.AtRest := by
  have run : machine.Run (start {}) busyWalk ((machine.exec (start {}) busyWalk).getD {}) :=
    .of_exec rfl
  exact ⟨_, run, rfl, rfl, rfl, comes_to_rest run.reachable⟩

end App

end VisionApp
