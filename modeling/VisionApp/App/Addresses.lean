import VisionApp.App.Composition
import VisionApp.Location.Address

/-!
# The addresses that the app offers

An address is asked for by a tap on a walk, by a tap on the home screen once
there was a walk, and by a command, and all of them share one manager. So what
the user is told is the concatenation of all the addresses since the launch.
-/

namespace VisionApp

namespace LocationManager

open EventMachine

/-- All that a list of placemarks leaves in `addressString`. -/
def addresses (placemarks : List CLPlacemark) : String :=
  String.join (placemarks.map addressText)

theorem addresses_append (first second : List CLPlacemark) :
    addresses (first ++ second) = addresses first ++ addresses second := by
  simp [addresses]

theorem addressString_of_reaction {before after : LocationManager} {event : Event}
    {outputs : List Output} (reaction : Reaction before event after outputs) :
    after.addressString = before.addressString ++ addresses (firstPlacemark event).toList := by
  have unchanged (same : after.addressString = before.addressString)
      (noPlacemark : firstPlacemark event = none) :
      after.addressString = before.addressString ++ addresses (firstPlacemark event).toList := by
    simp [same, noPlacemark, addresses]
  cases reaction with
  | @geocoded index placemarksArray after location answered =>
      match placemarksArray with
      | none => simp [geocoded] at answered
      | some [] =>
          simp only [geocoded, Except.ok.injEq, Prod.mk.injEq] at answered
          exact unchanged (by rw [← answered.1]) rfl
      | some (pm :: rest) =>
          simp only [geocoded_cons, Except.ok.injEq, Prod.mk.injEq] at answered
          rw [← answered.1]
          simp [firstPlacemark, addresses]
  | didUpdateLocations updated =>
      rcases didUpdateLocations_frame updated with ⟨location, _, count, _, rfl⟩
      exact unchanged rfl rfl
  | visionWillAppear controller =>
      rcases visionWillAppear_frame before controller with ⟨_, _, frame⟩
      exact unchanged (by rw [frame]) rfl
  | showRoute showed =>
      rcases showRoute_frame showed with ⟨moveCount, nextMove, rfl⟩
      exact unchanged rfl rfl
  | directionsAnswered showed =>
      rcases showRoute_frame showed with ⟨moveCount, nextMove, rfl⟩
      exact unchanged rfl rfl
  | didFailWithError => exact unchanged rfl rfl
  | setDestinationCoordinate newValue => exact unchanged rfl rfl
  | takeMeThere => exact unchanged rfl rfl
  | initRoute => exact unchanged rfl rfl
  | directionsFailed index => exact unchanged rfl rfl
  | getUserLocatoin => exact unchanged rfl rfl

theorem addressString_of_run {events : List Event} {finish : LocationManager}
    (run : machine.Run {} events finish) :
    finish.addressString = addresses (events.filterMap firstPlacemark) := by
  induction run with
  | refl => rfl
  | @snoc events before after event outputs earlier step ih =>
      have last := addressString_of_reaction (reaction_of_handle step.2)
      rw [last, ih, ← addresses_append, List.filterMap_append]
      cases isAnswer : firstPlacemark event <;> simp [isAnswer]

end LocationManager

namespace App

open EventMachine

def firstPlacemark (event : Event) : Option CLPlacemark :=
  (locationCallback event).bind LocationManager.firstPlacemark

theorem addressString_of_run {realm : RealmManager} {events : List Event} {app : App}
    (run : machine.Run (start realm) events app) :
    app.locationManager.addressString =
      LocationManager.addresses (events.filterMap firstPlacemark) := by
  rcases (locationComponent realm).run run with ⟨locationEvents, locationRun, callbacks⟩
  have managed := LocationManager.addressString_of_run locationRun
  have answers : locationEvents.filterMap LocationManager.firstPlacemark =
      events.filterMap firstPlacemark := by
    apply (locationComponent realm).filterMap_callbacks callbacks
    intro event isCall
    cases event <;> first | rfl | simp [locationComponent, LocationManager.isCall] at isCall
  rw [answers] at managed
  exact managed

/-- After any run, an answer with a placemark offers the user the addresses of all the placemarks
that were answered since the launch, whoever asked for them, its own the last. -/
theorem address_offered {realm : RealmManager} {events : List Event} {app after : App}
    {index : ℕ} {pm : CLPlacemark} {rest : List CLPlacemark} {outputs : List Output}
    (run : machine.Run (start realm) events app)
    (step : machine.Step app (.location (.geocoded index (some (pm :: rest)))) after outputs) :
    after.speechManager = app.speechManager.voiceOutput
      ("You are at " ++
        LocationManager.addresses (events.filterMap firstPlacemark ++ [pm])) .voiceCommandInfo := by
  have handled := step.2
  simp only [machine, handle, runLocation_eq] at handled
  rcases LocationManager.handle_geocoded_cons app.locationManager index pm rest with
    ⟨manager, answered⟩
  simp only [answered, Except.map, List.map_singleton, locationCall, carryOutAll, carryOut,
    Except.ok.injEq, Prod.mk.injEq] at handled
  rw [← handled.1, addressString_of_run run, LocationManager.addresses_append]
  simp [voiceOutput, LocationManager.addresses]

/-- Two taps on a walk. -/
def askTwice : List Event :=
  [.launch, .home (.swipe .right), .vision 0 .tap,
    .location (.geocoded 0 (some [{ locality := some "Pune" }])), .speech .gateTimer,
    .vision 0 .tap]

theorem askTwice_offered :
    ∃ app after, machine.Run (start {}) askTwice app ∧
      machine.Step app (.location (.geocoded 0 (some [{ locality := some "Delhi" }]))) after [] ∧
      after.speechManager = app.speechManager.voiceOutput
        ("You are at " ++ LocationManager.addresses
          ([{ locality := some "Pune" }] ++ [{ locality := some "Delhi" }])) .voiceCommandInfo := by
  have run : machine.Run (start {}) askTwice ((machine.exec (start {}) askTwice).getD {}) :=
    .of_exec rfl
  have step : machine.Step ((machine.exec (start {}) askTwice).getD {})
      (.location (.geocoded 0 (some [{ locality := some "Delhi" }])))
      ((machine.exec (start {}) (askTwice ++
        [.location (.geocoded 0 (some [{ locality := some "Delhi" }]))])).getD {}) [] := ⟨rfl, rfl⟩
  have offered := address_offered run step
  have answers : askTwice.filterMap firstPlacemark = [{ locality := some "Pune" }] := rfl
  rw [answers] at offered
  exact ⟨_, _, run, step, offered⟩

end App

end VisionApp
