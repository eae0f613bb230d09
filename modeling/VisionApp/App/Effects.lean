import VisionApp.AppDelegate
import Mathlib.Logic.Relation

/-!
# What a step of the app can do

One event of the app may run handlers of several components. Every step is a
sequence of elementary effects, each of which changes one component through its
own machine, or the navigation. An invariant of the app only has to be checked
against the effects, and a component of the app only ever takes steps of its own
machine.
-/

namespace VisionApp.App

open Relation

/-- An elementary change of the app's state. -/
inductive Effect : App → App → Prop where
  | speech (app : App) (event : SpeechManager.Event)
      (isEnabled : app.speechManager.enabled event = true) :
      Effect app { app with speechManager := (app.speechManager.handle event).1 }
  | location (app : App) (event : LocationManager.Event) {after : LocationManager}
      {outputs : List LocationManager.Output}
      (step : LocationManager.machine.Step app.locationManager event after outputs) :
      Effect app { app with locationManager := after }
  | home (app : App) (event : HomeViewController.Event) {after : HomeViewController}
      {outputs : List HomeViewController.Output}
      (step : HomeViewController.machine.Step app.home event after outputs) :
      Effect app { app with home := after }
  | vision (app : App) {screen : ℕ} {before : VisionViewController}
      (after : VisionViewController)
      (present : app.visions[screen]? = some before)
      (sameDestination : after.destinationLocation = before.destinationLocation) :
      Effect app { app with visions := app.visions.set screen after }
  | save (app : App) (location : LocationModel) :
      Effect app { app with realm := app.realm.saveLocation location }
  | whereAmI (app : App) (blocks : ℕ) : Effect app { app with whereAmIBlocks := blocks }
  | launch (app : App) (notLaunched : app.stack = []) : Effect app { app with stack := [.home] }
  | pop (app : App) : Effect app { app with stack := app.stack.tail }
  | present (app : App) (fromHome : app.onScreen = some .home) :
      Effect app { app with
        visions := app.visions ++ [({} : VisionViewController)]
        stack := .vision app.visions.length :: app.stack
        visionDelegate := some (.vision app.visions.length)
        observers := app.observers ++ [app.visions.length] }

abbrev Effects : App → App → Prop :=
  ReflTransGen Effect

theorem Effects.invariant {property : App → Prop}
    (kept : ∀ before after, Effect before after → property before → property after)
    {before after : App} (effects : Effects before after) (initially : property before) :
    property after := by
  induction effects with
  | refl => exact initially
  | tail _ effect ih => exact kept _ _ effect ih

theorem voiceOutput_effects (app : App) (message : String) (commandType : VoiceCommand) :
    Effects app (app.voiceOutput message commandType) :=
  .single (Effect.speech app (.voiceOutput message commandType) rfl)

theorem post_effects (app : App) (nexStep : String) : Effects app (app.post nexStep) := by
  simp only [post]
  induction app.liveObservers generalizing app with
  | nil => exact .refl
  | cons _ observers ih =>
      exact (voiceOutput_effects app nexStep .voiceCommandInfo).trans (ih _)

theorem whereAmI_effects (app : App) : Effects app app.whereAmI :=
  .single (Effect.whereAmI _ _)

theorem getUserLocatoin_effects (app : App) : Effects app app.getUserLocatoin :=
  .single (Effect.location app .getUserLocatoin ⟨rfl, rfl⟩)

theorem saveThisLocation_effects (app : App) : Effects app app.saveThisLocation.1 := by
  have prompted := Effect.speech app .inputsToSaveLocation rfl
  have saved := (ReflTransGen.single prompted).tail (Effect.save _ (app.locationManager.newLocation
    (app.speechManager.locationName, app.speechManager.locationPlacemark)))
  exact saved.trans (voiceOutput_effects _ _ _)

theorem homeViewWillAppear_effects (app : App) : Effects app app.homeViewWillAppear :=
  .single (Effect.home app (.viewWillAppear app.realm.getLocationList) ⟨rfl, rfl⟩)

theorem popViewController_effects (app : App) : Effects app app.popViewController :=
  .head (Effect.pop app) (homeViewWillAppear_effects _)

theorem visionViewWillAppear_effects (app : App) (screen : ℕ) :
    Effects app (app.visionViewWillAppear screen) := by
  simp only [visionViewWillAppear]
  split
  · rename_i controller present
    have appeared := Effect.vision app controller.viewWillAppear.1 present
      controller.destinationLocation_viewWillAppear
    exact (ReflTransGen.single appeared).tail
      (Effect.location _ (.visionWillAppear controller) ⟨rfl, rfl⟩)
  · exact .refl

theorem performSegue_effects {app : App} (fromHome : app.onScreen = some .home) :
    Effects app app.performSegue :=
  .head (Effect.present _ fromHome) (visionViewWillAppear_effects _ _)

theorem performAll_effects {Request : Type*}
    {perform : App → Request → Except Trap (App × List Output)} {requests : List Request}
    (performs : ∀ request ∈ requests, ∀ app after outputs,
      perform app request = .ok (after, outputs) → Effects app after)
    {app after : App} {outputs : List Output}
    (performed : performAll perform app requests = .ok (after, outputs)) : Effects app after := by
  induction requests generalizing app outputs with
  | nil =>
      simp only [performAll, Except.ok.injEq, Prod.mk.injEq] at performed
      rw [performed.1]
  | cons request requests ih =>
      simp only [performAll, bind_eq_ok_iff, pure_eq_ok_iff, Prod.mk.injEq, Prod.exists]
        at performed
      rcases performed with ⟨middle, first, performedFirst, last, rest, performedRest, rfl, _⟩
      exact (performs request (by simp) _ _ _ performedFirst).trans
        (ih (fun later laterMem => performs later (by simp [laterMem])) performedRest)

theorem performHome_effects {app after : App} {request : HomeViewController.Output}
    {outputs : List Output} (noSegue : ∀ identifier, request ≠ .performSegue identifier)
    (performed : performHome app request = .ok (after, outputs)) : Effects app after := by
  cases request with
  | voiceOutput message commandType =>
      simp only [performHome, Except.ok.injEq, Prod.mk.injEq] at performed
      rw [← performed.1]
      exact voiceOutput_effects app message commandType
  | scrollToRow row =>
      simp only [performHome, Except.ok.injEq, Prod.mk.injEq] at performed
      rw [← performed.1]
  | performSegue identifier => exact absurd rfl (noSegue identifier)
  | saveThisLocation =>
      simp only [performHome, Except.ok.injEq] at performed
      have same : app.saveThisLocation.1 = after := by rw [performed]
      rw [← same]
      exact saveThisLocation_effects app
  | whereAmI =>
      simp only [performHome] at performed
      split at performed
      · simp only [Except.ok.injEq, Prod.mk.injEq] at performed
        rw [← performed.1]
        exact whereAmI_effects app
      · simp only [Except.ok.injEq, Prod.mk.injEq] at performed
        rw [← performed.1]

theorem runHome_effects {app after : App} {event : HomeViewController.Event}
    {outputs : List Output} (isEnabled : app.home.enabled event = true)
    (fromHome : HomeViewController.opensVision event = true → app.onScreen = some .home)
    (ran : app.runHome event = .ok (after, outputs)) : Effects app after := by
  simp only [runHome, bind_eq_ok_iff, Prod.exists] at ran
  rcases ran with ⟨home, requests, handled, performed⟩
  have stepped := Effect.home app event ⟨isEnabled, handled⟩
  have asked := HomeViewController.handle_requests handled
  refine .head stepped ?_
  split at asked
  · rename_i opens
    subst requests
    simp only [performAll, performHome, bind_eq_ok_iff, pure_eq_ok_iff, Except.ok.injEq,
      Prod.mk.injEq, Prod.exists] at performed
    rcases performed with ⟨_, _, ⟨rfl, _⟩, _, _, ⟨rfl, _⟩, rfl, _⟩
    exact performSegue_effects (fromHome opens)
  · refine performAll_effects ?_ performed
    intro request requestMem middle last middleOutputs performedOne
    refine performHome_effects ?_ performedOne
    rintro identifier rfl
    exact asked identifier requestMem

theorem callDelegate_effects {app after : App} {call : DelegateCall} {outputs : List Output}
    (notHome : app.visionDelegate ≠ some .home)
    (called : app.callDelegate call = .ok (after, outputs)) : Effects app after := by
  simp only [callDelegate] at called
  split at called
  · simp at called
  · rename_i receiver isDelegate
    simp only [bind_eq_ok_iff, pure_eq_ok_iff, Prod.mk.injEq, Prod.exists] at called
    rcases called with ⟨reached, reachedOutputs, dispatched, rfl, _⟩
    cases receiver with
    | home => exact absurd isDelegate notHome
    | vision screen =>
        cases call with
        | navigateToVision isLocalLocation =>
            simp only [dispatch, Except.ok.injEq, Prod.mk.injEq] at dispatched
            rw [dispatched.1]
        | filterLocationList filterInput =>
            simp only [dispatch, Except.ok.injEq, Prod.mk.injEq] at dispatched
            rw [dispatched.1]
        | whereAmI =>
            simp only [dispatch, Except.ok.injEq, Prod.mk.injEq] at dispatched
            rw [← dispatched.1]
            exact whereAmI_effects app

theorem performLocation_effects {app after : App} {request : LocationManager.Output}
    {outputs : List Output} (performed : performLocation app request = .ok (after, outputs)) :
    Effects app after := by
  cases request with
  | post nexStep =>
      simp only [performLocation, Except.ok.injEq, Prod.mk.injEq] at performed
      rw [← performed.1]
      exact post_effects app nexStep
  | completion location =>
      simp only [performLocation, Except.ok.injEq, Prod.mk.injEq] at performed
      rw [← performed.1]
      exact voiceOutput_effects app _ _

theorem performVision_effects {app after : App} {request : VisionViewController.Output}
    {outputs : List Output} (performed : performVision app request = .ok (after, outputs)) :
    Effects app after := by
  cases request with
  | voiceOutput message commandType =>
      simp only [performVision, Except.ok.injEq, Prod.mk.injEq] at performed
      rw [← performed.1]
      exact voiceOutput_effects app message commandType
  | saveThisLocation =>
      simp only [performVision, Except.ok.injEq] at performed
      have same : app.saveThisLocation.1 = after := by rw [performed]
      rw [← same]
      exact saveThisLocation_effects app
  | getUserLocatoin =>
      simp only [performVision, Except.ok.injEq, Prod.mk.injEq] at performed
      rw [← performed.1]
      exact getUserLocatoin_effects app
  | popViewController =>
      simp only [performVision, Except.ok.injEq, Prod.mk.injEq] at performed
      rw [← performed.1]
      exact popViewController_effects app

theorem runLocation_effects {app after : App} {event : LocationManager.Event}
    {outputs : List Output} (isEnabled : app.locationManager.enabled event = true)
    (ran : app.runLocation event = .ok (after, outputs)) : Effects app after := by
  simp only [runLocation, bind_eq_ok_iff, Prod.exists] at ran
  rcases ran with ⟨manager, requests, handled, performed⟩
  have stepped := Effect.location app event ⟨isEnabled, handled⟩
  exact .head stepped
    (performAll_effects (fun _ _ _ _ _ done => performLocation_effects done) performed)

theorem runVision_effects {app after : App} {screen : ℕ} {event : VisionViewController.Event}
    {outputs : List Output} (ran : app.runVision screen event = .ok (after, outputs)) :
    Effects app after := by
  simp only [runVision] at ran
  split at ran
  · simp only [Except.ok.injEq, Prod.mk.injEq] at ran
    rw [ran.1]
  · rename_i controller present
    simp only [bind_eq_ok_iff, Prod.exists] at ran
    rcases ran with ⟨reached, requests, handled, performed⟩
    have stepped := Effect.vision app reached present
      (VisionViewController.destinationLocation_handle handled)
    exact .head stepped
      (performAll_effects (fun _ _ _ _ _ done => performVision_effects done) performed)

/-- The delegate call of `voiceInputAction` comes last, so the delegate is the one of before. -/
theorem runSpeech_effects {app after : App} {event : SpeechManager.Event}
    {outputs : List Output} (isEnabled : app.speechManager.enabled event = true)
    (notHome : app.visionDelegate ≠ some .home)
    (ran : app.runSpeech event = .ok (after, outputs)) : Effects app after := by
  simp only [runSpeech] at ran
  refine .head (Effect.speech app event isEnabled) ?_
  have asked := app.speechManager.handle_requests event
  rcases asked with none | ⟨request, single⟩
  · rw [none] at ran
    simp only [performAll, Except.ok.injEq, Prod.mk.injEq] at ran
    rw [ran.1]
  · rw [single] at ran
    simp only [performAll, bind_eq_ok_iff, pure_eq_ok_iff, Except.ok.injEq, Prod.mk.injEq,
      Prod.exists] at ran
    rcases ran with ⟨middle, first, performed, _, _, ⟨rfl, _⟩, rfl, _⟩
    cases request with
    | visionDelegate call => exact callDelegate_effects notHome performed
    | playSystemSound =>
        simp only [performSpeech, Except.ok.injEq, Prod.mk.injEq] at performed
        rw [performed.1]
    | inputs locationName locationPlacemark =>
        simp only [performSpeech, Except.ok.injEq, Prod.mk.injEq] at performed
        rw [performed.1]

theorem Effect.notHome {before after : App} (effect : Effect before after)
    (notHome : before.visionDelegate ≠ some .home) : after.visionDelegate ≠ some .home := by
  cases effect with
  | present => simp
  | _ => exact notHome

theorem step_effects {before after : App} {event : Event} {outputs : List Output}
    (notHome : before.visionDelegate ≠ some .home)
    (step : machine.Step before event after outputs) : Effects before after := by
  rcases step with ⟨isEnabled, handled⟩
  cases event with
  | launch =>
      simp only [machine, enabled, handle, List.isEmpty_iff, Except.ok.injEq, Prod.mk.injEq]
        at isEnabled handled
      rw [← handled.1]
      exact .head (Effect.launch before isEnabled) (homeViewWillAppear_effects _)
  | home event =>
      have isHomeEnabled : before.home.enabled event = true := by
        cases event <;> simp_all [machine, enabled, enabledHome, HomeViewController.enabled]
      refine runHome_effects isHomeEnabled ?_ handled
      intro opens
      cases event <;>
        simp_all [machine, enabled, enabledHome, HomeViewController.opensVision]
  | vision screen event => exact runVision_effects handled
  | back =>
      simp only [machine, handle, Except.ok.injEq, Prod.mk.injEq] at handled
      rw [← handled.1]
      exact popViewController_effects before
  | speech event =>
      have isSpeechEnabled : before.speechManager.enabled event = true := by
        cases event <;> simp_all [machine, enabled, enabledSpeech]
      exact runSpeech_effects isSpeechEnabled notHome handled
  | location event =>
      have isLocationEnabled : before.locationManager.enabled event = true := by
        cases event <;> simp_all [machine, enabled, enabledLocation]
      exact runLocation_effects isLocationEnabled handled
  | whereAmIBlock =>
      simp only [machine, handle, Except.ok.injEq, Prod.mk.injEq] at handled
      rw [← handled.1]
      exact .head (Effect.whereAmI _ _) (getUserLocatoin_effects _)

/-- An invariant that every effect keeps holds in every state the app reaches. -/
theorem invariant_of_effect {property : App → Prop}
    (kept : ∀ before after, Effect before after → property before → property after)
    {realm : RealmManager} (initially : property (start realm)) {app : App}
    (reached : machine.Reachable (start realm) app) : property app := by
  have preserved : machine.Preserved (fun app => app.visionDelegate ≠ some .home ∧
      property app) := by
    rintro before event after outputs ⟨notHome, holds⟩ step
    have bothKept : ∀ first second, Effect first second →
        (first.visionDelegate ≠ some .home ∧ property first) →
          second.visionDelegate ≠ some .home ∧ property second := by
      rintro first second effect ⟨firstNotHome, firstHolds⟩
      exact ⟨effect.notHome firstNotHome, kept first second effect firstHolds⟩
    exact (step_effects notHome step).invariant bothKept ⟨notHome, holds⟩
  exact (reached.invariant preserved ⟨by simp [start], initially⟩).2

end VisionApp.App
