import VisionApp.App.Announcement
import VisionApp.App.Destination
import VisionApp.ViewController.Requests

/-!
# A step as a callback and its calls

An event of the app is a callback of one component. The component handles it and
then calls others, one call after the other. The calls cannot fail and each
has the same effect whoever makes it, so a step is known from the callback's own
effect and the list of calls.
-/

namespace VisionApp.App

open EventMachine

/-- A call that a component makes on another one, on UIKit or on the notification centre. -/
inductive Call where
  | voiceOutput (message : String) (commandType : VoiceCommand)
  | scrollToRow (row : ℤ)
  | performSegue
  | saveThisLocation
  | whereAmI
  | getUserLocatoin
  | popViewController
  | post (nexStep : String)
  | delegate (receiver : Controller) (call : DelegateCall)
deriving DecidableEq, Repr

/-- What a call does. The delegate is a vision screen, which only acts on `whereAmI`. -/
def carryOut (app : App) : Call → App × List Output
  | .voiceOutput message commandType => (app.voiceOutput message commandType, [])
  | .scrollToRow row => (app, [.scrollToRow row])
  | .performSegue => (app.performSegue, [])
  | .saveThisLocation => app.saveThisLocation
  | .whereAmI =>
      match app.visionDelegate with
      | some receiver => (app.whereAmI, [.delegate receiver .whereAmI])
      | none => (app, [])
  | .getUserLocatoin => (app.getUserLocatoin, [])
  | .popViewController => (app.popViewController, [])
  | .post nexStep => (app.post nexStep, [.post nexStep])
  | .delegate receiver call =>
      (if call = .whereAmI then app.whereAmI else app, [.delegate receiver call])

def carryOutAll : App → List Call → App × List Output
  | app, [] => (app, [])
  | app, call :: calls =>
      let (app, first) := app.carryOut call
      let (app, rest) := carryOutAll app calls
      (app, first ++ rest)

def homeCall : HomeViewController.Output → Call
  | .voiceOutput message commandType => .voiceOutput message commandType
  | .scrollToRow row => .scrollToRow row
  | .performSegue _ => .performSegue
  | .saveThisLocation => .saveThisLocation
  | .whereAmI => .whereAmI

def visionCall : VisionViewController.Output → Call
  | .voiceOutput message commandType => .voiceOutput message commandType
  | .saveThisLocation => .saveThisLocation
  | .getUserLocatoin => .getUserLocatoin
  | .popViewController => .popViewController

def locationCall : LocationManager.Output → Call
  | .post nexStep => .post nexStep
  | .completion location => .voiceOutput ("You are at " ++ location) .voiceCommandInfo

/-- The call to the delegate, if there is one; the listening sound and a result are no calls. -/
def speechCall (app : App) : SpeechManager.Output → Option Call
  | .visionDelegate call => app.visionDelegate.map (fun receiver => .delegate receiver call)
  | .playSystemSound => none
  | .inputs _ _ => none

/-- The speech manager calls nobody but the delegate. -/
theorem delegate_of_speechCall {app : App} {requests : List SpeechManager.Output} {call : Call}
    (callMem : call ∈ requests.filterMap app.speechCall) :
    ∃ receiver asked, .visionDelegate asked ∈ requests ∧ call = .delegate receiver asked := by
  rcases List.mem_filterMap.mp callMem with ⟨request, requestMem, called⟩
  cases request with
  | visionDelegate asked =>
      rcases Option.map_eq_some_iff.mp called with ⟨receiver, _, rfl⟩
      exact ⟨receiver, asked, requestMem, rfl⟩
  | playSystemSound => simp [speechCall] at called
  | inputs locationName locationPlacemark => simp [speechCall] at called

/-- A screen that is gone asks for less, but for nothing else. -/
theorem unlessGone_eq (app : App) (screen : ℕ) (event : VisionViewController.Event)
    (requests : List VisionViewController.Output) :
    app.unlessGone screen event requests = requests ∨
      event = .displayBlock ∧ app.unlessGone screen event requests = [] := by
  cases event with
  | displayBlock =>
      cases alive : app.isAlive screen with
      | true => exact Or.inl (by simp [unlessGone, alive])
      | false => exact Or.inr ⟨rfl, by simp [unlessGone, alive]⟩
  | _ => exact Or.inl rfl

theorem mem_of_unlessGone {app : App} {screen : ℕ} {event : VisionViewController.Event}
    {requests asked : List VisionViewController.Output}
    (received : app.unlessGone screen event requests = asked)
    {request : VisionViewController.Output} (requestMem : request ∈ asked) :
    request ∈ requests := by
  rw [← received] at requestMem
  rcases app.unlessGone_eq screen event requests with same | ⟨_, gone⟩
  · rwa [same] at requestMem
  · simp [gone] at requestMem

theorem asks_of_unlessGone {app : App} {screen : ℕ} {event : VisionViewController.Event}
    {requests asked : List VisionViewController.Output}
    (asks : VisionViewController.Asks event requests)
    (received : app.unlessGone screen event requests = asked) :
    VisionViewController.Asks event asked := by
  rcases app.unlessGone_eq screen event requests with same | ⟨rfl, gone⟩
  · rw [← received, same]
    exact asks
  · rw [← received, gone]
    exact .nothing (by simp) (by simp)

/-- A call that unwraps a delegate that is not there. -/
def unreceived (app : App) : SpeechManager.Output → Bool
  | .visionDelegate _ => app.visionDelegate.isNone
  | _ => false

/-- What a callback does itself, and the calls it makes. -/
inductive Delivered (before : App) : Event → App → List Call → Prop where
  | launch (notLaunched : before.stack = []) :
      Delivered before .launch ({ before with stack := [.home] }).homeViewWillAppear []
  | home {event : HomeViewController.Event} {home : HomeViewController}
      {requests : List HomeViewController.Output}
      (isEnabled : before.enabledHome event = true)
      (handled : before.home.handle event = .ok (home, requests)) :
      Delivered before (.home event) { before with home := home } (requests.map homeCall)
  | vision {screen : ℕ} {event : VisionViewController.Event}
      {controller after : VisionViewController}
      {requests asked : List VisionViewController.Output}
      (present : before.visions[screen]? = some controller)
      (isEnabled : before.enabledVision screen event = true)
      (handled : controller.handle event = .ok (after, requests))
      (received : before.unlessGone screen event requests = asked) :
      Delivered before (.vision screen event)
        { before with visions := before.visions.set screen after } (asked.map visionCall)
  | back (covered : 1 < before.stack.length) :
      Delivered before .back before [.popViewController]
  | speech {event : SpeechManager.Event} (isEnabled : before.enabledSpeech event = true)
      (received : ∀ request ∈ (before.speechManager.handle event).2,
        before.unreceived request = false) :
      Delivered before (.speech event)
        { before with speechManager := (before.speechManager.handle event).1 }
        ((before.speechManager.handle event).2.filterMap before.speechCall)
  | location {event : LocationManager.Event} {manager : LocationManager}
      {requests : List LocationManager.Output}
      (isEnabled : before.enabledLocation event = true)
      (handled : before.locationManager.handle event = .ok (manager, requests)) :
      Delivered before (.location event) { before with locationManager := manager }
        (requests.map locationCall)
  | whereAmIBlock (pending : 0 < before.whereAmIBlocks) :
      Delivered before .whereAmIBlock
        { before with whereAmIBlocks := before.whereAmIBlocks - 1 } [.getUserLocatoin]

/-- What a step outputs comes from one of its calls. -/
theorem mem_carryOutAll {app : App} {calls : List Call} {output : Output}
    (outputMem : output ∈ (app.carryOutAll calls).2) :
    ∃ call ∈ calls, ∃ between : App, output ∈ (between.carryOut call).2 := by
  induction calls generalizing app with
  | nil => simp [carryOutAll] at outputMem
  | cons call calls ih =>
      simp only [carryOutAll, List.mem_append] at outputMem
      rcases outputMem with fromFirst | fromRest
      · exact ⟨call, by simp, app, fromFirst⟩
      · rcases ih fromRest with ⟨later, laterMem, between, fromLater⟩
        exact ⟨later, by simp [laterMem], between, fromLater⟩

/-- The delegate is called by the speech manager, and by the home screen for the address. -/
theorem delegate_of_carryOut {app : App} {call : Call} {receiver : Controller}
    {delegateCall : DelegateCall}
    (outputMem : .delegate receiver delegateCall ∈ (app.carryOut call).2) :
    call = .delegate receiver delegateCall ∨ call = .whereAmI ∧ delegateCall = .whereAmI := by
  cases call with
  | whereAmI =>
      simp only [carryOut] at outputMem
      split at outputMem
      · simp only [List.mem_singleton, Output.delegate.injEq] at outputMem
        exact Or.inr ⟨rfl, outputMem.2⟩
      · simp at outputMem
  | delegate called asked =>
      simp only [carryOut, List.mem_singleton, Output.delegate.injEq] at outputMem
      exact Or.inl (by rw [outputMem.1, outputMem.2])
  | _ => simp [carryOut, saveThisLocation] at outputMem

/-- What carrying out a call can leave of the app. -/
inductive Carried (app : App) : Call → App → Prop where
  | spoken (message : String) (commandType : VoiceCommand) :
      Carried app (.voiceOutput message commandType) (app.voiceOutput message commandType)
  | notified (nexStep : String) :
      Carried app (.post nexStep) (app.voiceOutput nexStep .voiceCommandInfo)
  | saved : Carried app .saveThisLocation app.saveThisLocation.1
  | shown :
      Carried app .performSegue
        { app with
          visions := app.visions ++ [({} : VisionViewController).viewWillAppear.1]
          stack := .vision app.visions.length :: app.stack
          visionDelegate := some (.vision app.visions.length)
          observers := app.observers ++ [app.visions.length] }
  | asked : Carried app .whereAmI app.whereAmI
  | delegated (receiver : Controller) (call : DelegateCall) :
      Carried app (.delegate receiver call) app.whereAmI
  | located : Carried app .getUserLocatoin app.getUserLocatoin
  | popped : Carried app .popViewController app.popViewController
  | kept (call : Call) : Carried app call app

theorem carried_of_carryOut (app : App) (call : Call) : Carried app call (app.carryOut call).1 := by
  cases call with
  | voiceOutput message commandType => exact .spoken message commandType
  | saveThisLocation => exact .saved
  | getUserLocatoin => exact .located
  | popViewController => exact .popped
  | scrollToRow row => exact .kept _
  | performSegue =>
      simp only [carryOut, performSegue_eq]
      exact .shown
  | post nexStep =>
      simp only [carryOut, post_eq]
      split
      · exact .kept _
      · exact .notified nexStep
  | whereAmI =>
      simp only [carryOut]
      split
      · exact .asked
      · exact .kept _
  | delegate receiver call =>
      simp only [carryOut]
      split
      · exact .delegated receiver call
      · exact .kept _

/-- What relates the app before and after every call of a step relates it before and after all of
them. -/
theorem carryOutAll_related (related : App → App → Prop) (refl : ∀ app, related app app)
    (trans : ∀ {before middle after}, related before middle → related middle after →
      related before after)
    {app : App} {calls : List Call}
    (each : ∀ {before after call}, call ∈ calls → Carried before call after →
      related before after) :
    related app (app.carryOutAll calls).1 := by
  induction calls generalizing app with
  | nil => exact refl app
  | cons call calls ih =>
      apply trans (each (by simp) (carried_of_carryOut app call))
      apply ih
      intro before after later laterMem carried
      exact each (by simp [laterMem]) carried

theorem performAll_calls {Request : Type*}
    {perform : App → Request → Except Trap (App × List Output)} {toCall : Request → Call}
    (performs : ∀ app request, perform app request = .ok (app.carryOut (toCall request)))
    (app : App) (requests : List Request) :
    performAll perform app requests = .ok (app.carryOutAll (requests.map toCall)) := by
  induction requests generalizing app with
  | nil => rfl
  | cons request requests ih =>
      simp only [performAll, performs, List.map_cons, carryOutAll]
      rw [bind_eq_ok_iff]
      refine ⟨_, rfl, ?_⟩
      rw [bind_eq_ok_iff]
      exact ⟨_, ih _, rfl⟩

theorem performHome_call (app : App) (request : HomeViewController.Output) :
    performHome app request = .ok (app.carryOut (homeCall request)) := by
  cases request with
  | whereAmI =>
      simp only [performHome, homeCall, carryOut]
      cases app.visionDelegate <;> rfl
  | _ => rfl

theorem performVision_call (app : App) (request : VisionViewController.Output) :
    performVision app request = .ok (app.carryOut (visionCall request)) := by
  cases request <;> rfl

theorem performLocation_call (app : App) (request : LocationManager.Output) :
    performLocation app request = .ok (app.carryOut (locationCall request)) := by
  cases request <;> rfl

theorem runHome_eq (app : App) (event : HomeViewController.Event) :
    app.runHome event = (app.home.handle event).map (fun handled =>
      ({ app with home := handled.1 } : App).carryOutAll (handled.2.map homeCall)) := by
  simp only [runHome]
  cases app.home.handle event with
  | error trap => rfl
  | ok handled => exact performAll_calls performHome_call _ handled.2

theorem runLocation_eq (app : App) (event : LocationManager.Event) :
    app.runLocation event = (app.locationManager.handle event).map (fun handled =>
      ({ app with locationManager := handled.1 } : App).carryOutAll
        (handled.2.map locationCall)) := by
  simp only [runLocation]
  cases app.locationManager.handle event with
  | error trap => rfl
  | ok handled => exact performAll_calls performLocation_call _ handled.2

theorem runVision_eq {app : App} {screen : ℕ} {controller : VisionViewController}
    (present : app.visions[screen]? = some controller) (event : VisionViewController.Event) :
    app.runVision screen event = (controller.handle event).map (fun handled =>
      ({ app with visions := app.visions.set screen handled.1 } : App).carryOutAll
        ((app.unlessGone screen event handled.2).map visionCall)) := by
  simp only [runVision, present]
  cases controller.handle event with
  | error trap => rfl
  | ok handled => exact performAll_calls performVision_call _ _

theorem callDelegate_eq {app : App} (navigated : app.Navigated) (call : DelegateCall) :
    app.callDelegate call =
      match app.visionDelegate with
      | none => .error .unexpectedNil
      | some receiver => .ok (app.carryOut (.delegate receiver call)) := by
  simp only [callDelegate]
  cases isDelegate : app.visionDelegate with
  | none => rfl
  | some receiver =>
      rcases (navigated.delegate receiver).mp isDelegate with ⟨screen, _, rfl⟩
      cases call <;> rfl

theorem performSpeech_eq {app : App} (navigated : app.Navigated)
    (request : SpeechManager.Output) :
    performSpeech app request =
      if app.unreceived request then .error .unexpectedNil
      else .ok (app.carryOutAll (app.speechCall request).toList) := by
  cases request with
  | visionDelegate call =>
      simp only [performSpeech, callDelegate_eq navigated]
      split
      · rename_i noDelegate
        simp [unreceived, noDelegate]
      · rename_i receiver isDelegate
        simp [unreceived, speechCall, isDelegate, carryOutAll]
  | playSystemSound => rfl
  | inputs locationName locationPlacemark => rfl

theorem runSpeech_eq {app : App} (navigated : app.Navigated) (event : SpeechManager.Event) :
    app.runSpeech event =
      if (app.speechManager.handle event).2.any app.unreceived then .error .unexpectedNil
      else
        .ok (({ app with speechManager := (app.speechManager.handle event).1 } : App).carryOutAll
          ((app.speechManager.handle event).2.filterMap app.speechCall)) := by
  have stillNavigated :
      ({ app with speechManager := (app.speechManager.handle event).1 } : App).Navigated :=
    ⟨navigated.stack, navigated.delegate⟩
  simp only [runSpeech]
  rcases app.speechManager.handle_requests event with none | ⟨request, single⟩
  · rw [none]
    rfl
  · have sameCall : ({ app with speechManager := (app.speechManager.handle event).1 } :
        App).speechCall request = app.speechCall request := by
      cases request <;> rfl
    have sameReceiver : ({ app with speechManager := (app.speechManager.handle event).1 } :
        App).unreceived request = app.unreceived request := by
      cases request <;> rfl
    rw [single]
    simp only [performAll, performSpeech_eq stillNavigated, sameCall, sameReceiver, List.any_cons,
      List.any_nil, Bool.or_false]
    cases app.unreceived request with
    | true => rfl
    | false =>
        cases called : app.speechCall request with
        | none => simp [called, carryOutAll, bind, Except.bind, pure, Except.pure]
        | some call => simp [called, carryOutAll, bind, Except.bind, pure, Except.pure]

/-- Every step is a callback followed by its calls. -/
theorem delivered_of_step {before after : App} {event : Event} {outputs : List Output}
    (navigated : before.Navigated) (step : machine.Step before event after outputs) :
    ∃ middle calls, Delivered before event middle calls ∧
      middle.carryOutAll calls = (after, outputs) := by
  rcases step with ⟨isEnabled, handled⟩
  cases event with
  | launch =>
      simp only [machine, enabled, handle, List.isEmpty_iff, Except.ok.injEq] at isEnabled handled
      exact ⟨_, _, .launch isEnabled, handled⟩
  | home event =>
      simp only [machine, handle, runHome_eq] at handled
      cases reacted : before.home.handle event with
      | error trap => simp [reacted, Except.map] at handled
      | ok result =>
          simp only [reacted, Except.map, Except.ok.injEq] at handled
          exact ⟨_, _, .home isEnabled reacted, handled⟩
  | vision screen event =>
      have present : ∃ controller, before.visions[screen]? = some controller := by
        simp only [machine, enabled, enabledVision] at isEnabled
        split at isEnabled
        · simp at isEnabled
        · rename_i controller present
          exact ⟨controller, present⟩
      rcases present with ⟨controller, present⟩
      simp only [machine, handle, runVision_eq present] at handled
      cases reacted : controller.handle event with
      | error trap => simp [reacted, Except.map] at handled
      | ok result =>
          simp only [reacted, Except.map, Except.ok.injEq] at handled
          exact ⟨_, _, .vision present isEnabled reacted rfl, handled⟩
  | back =>
      simp only [machine, enabled, handle, decide_eq_true_eq, Except.ok.injEq] at isEnabled handled
      exact ⟨_, _, .back isEnabled, handled⟩
  | speech event =>
      simp only [machine, handle, runSpeech_eq navigated] at handled
      split at handled
      · simp at handled
      · rename_i received
        simp only [Except.ok.injEq] at handled
        exact ⟨_, _, .speech isEnabled (by simpa using received), handled⟩
  | location event =>
      simp only [machine, handle, runLocation_eq] at handled
      cases reacted : before.locationManager.handle event with
      | error trap => simp [reacted, Except.map] at handled
      | ok result =>
          simp only [reacted, Except.map, Except.ok.injEq] at handled
          exact ⟨_, _, .location isEnabled reacted, handled⟩
  | whereAmIBlock =>
      simp only [machine, enabled, handle, decide_eq_true_eq, Except.ok.injEq] at isEnabled handled
      exact ⟨_, _, .whereAmIBlock isEnabled, handled⟩

end VisionApp.App
