import VisionApp.App.Calls
import VisionApp.App.Destination
import VisionApp.ViewController.Requests

/-!
# The places that are saved

The app writes to its store in one place, for one swipe on either screen, and
never removes or changes what it wrote. Where a location is saved is decided by
the fixes and the swipes alone: nothing that is said, heard, classified, searched
or shown has a part in it. The store outlives the app, so this is a law of all the
launches of the app together.
-/

namespace VisionApp.App

open EventMachine

/-- The swipes that run `saveThisLocation`. -/
def savesHere : Event → Bool
  | .home (.swipe .left) | .vision _ (.swipe .down) => true
  | _ => false

/-- The fix that a batch leaves as the current location. -/
def fix : Event → Option CLLocationCoordinate2D
  | .location (.didUpdateLocations (location :: _)) => some location.coordinate
  | _ => none

/-- The position after a run that began at `here`. -/
def positionAfter (here : CLLocationCoordinate2D) : List Event → CLLocationCoordinate2D
  | [] => here
  | event :: events => positionAfter ((fix event).getD here) events

/-- The positions at the swipes that save, in their order. -/
def savedPositions (here : CLLocationCoordinate2D) : List Event → List CLLocationCoordinate2D
  | [] => []
  | event :: events =>
      (if savesHere event then [here] else []) ++
        savedPositions ((fix event).getD here) events

/-- What `saveCurrentLocation` would save now. -/
def newLocation (app : App) : LocationModel :=
  app.locationManager.newLocation
    (app.speechManager.locationName, app.speechManager.locationPlacemark)

theorem positionAfter_append (here : CLLocationCoordinate2D) (first second : List Event) :
    positionAfter here (first ++ second) = positionAfter (positionAfter here first) second := by
  induction first generalizing here with
  | nil => rfl
  | cons event events ih => exact ih _

theorem savedPositions_append (here : CLLocationCoordinate2D) (first second : List Event) :
    savedPositions here (first ++ second) =
      savedPositions here first ++ savedPositions (positionAfter here first) second := by
  induction first generalizing here with
  | nil => rfl
  | cons event events ih =>
      simp only [List.cons_append, savedPositions, positionAfter, ih, List.append_assoc]

theorem realm_carried {before after : App} {call : Call} (notSave : call ≠ .saveThisLocation)
    (carried : Carried before call after) : after.realm = before.realm := by
  cases carried with
  | saved => exact absurd rfl notSave
  | _ => rfl

theorem realm_carryOutAll {app : App} {calls : List Call}
    (noSave : Call.saveThisLocation ∉ calls) : (app.carryOutAll calls).1.realm = app.realm := by
  apply carryOutAll_related (fun before after => after.realm = before.realm)
  · exact fun _ => rfl
  · intro before middle after first second
    exact second.trans first
  · intro before after call callMem carried
    apply realm_carried _ carried
    rintro rfl
    exact noSave callMem

/-- A swipe that saves appends one location, and no other step touches the store. -/
theorem realm_of_step {before after : App} {event : Event} {outputs : List Output}
    (navigated : before.Navigated) (step : machine.Step before event after outputs) :
    after.realm.locations =
      before.realm.locations ++ if savesHere event then [before.newLocation] else [] := by
  rcases delivered_of_step navigated step with ⟨middle, calls, delivered, carried⟩
  have reached : after.realm = (middle.carryOutAll calls).1.realm := by rw [carried]
  have unchanged (noSave : Call.saveThisLocation ∉ calls) (sameRealm : middle.realm = before.realm)
      (notHere : savesHere event = false) :
      after.realm.locations =
        before.realm.locations ++ if savesHere event then [before.newLocation] else [] := by
    rw [reached, realm_carryOutAll noSave, sameRealm, notHere]
    simp
  cases delivered with
  | launch notLaunched => exact unchanged (by simp) rfl rfl
  | @home event home requests isEnabled handled =>
      cases HomeViewController.asks_of_handle handled with
      | save => rw [reached]; rfl
      | nothing notGesture =>
          apply unchanged (by simp) rfl
          cases event <;> first | rfl | simp [HomeViewController.isGesture] at notGesture
      | announcement announces message =>
          apply unchanged (by simp [homeCall]) rfl
          cases event <;> first | rfl | simp [HomeViewController.announcesSelection] at announces
      | selection direction message row vertical =>
          apply unchanged (by simp [homeCall]) rfl
          rcases vertical with rfl | rfl <;> rfl
      | segue opens =>
          apply unchanged (by simp [homeCall]) rfl
          cases event with
          | swipe direction =>
              cases direction <;> first | rfl | simp [HomeViewController.opensVision] at opens
          | _ => rfl
      | whereAmI => exact unchanged (by simp [homeCall]) rfl rfl
      | prompt => exact unchanged (by simp [homeCall]) rfl rfl
  | @vision screen event controller reached' requests asked present isEnabled handled received =>
      cases asks_of_unlessGone (VisionViewController.asks_of_handle handled) received with
      | save => rw [reached]; rfl
      | nothing notSave notLeave =>
          apply unchanged (by simp) rfl
          cases event with
          | swipe direction => cases direction <;> first | rfl | exact absurd rfl notSave
          | _ => rfl
      | leave => exact unchanged (by simp [visionCall]) rfl rfl
      | whereAmI => exact unchanged (by simp [visionCall]) rfl rfl
      | detection message => exact unchanged (by simp [visionCall]) rfl rfl
  | back covered => exact unchanged (by simp) rfl rfl
  | speech isEnabled received =>
      apply unchanged ?_ rfl rfl
      intro saveMem
      rcases delegate_of_speechCall saveMem with ⟨_, _, _, same⟩
      simp at same
  | location isEnabled handled =>
      apply unchanged ?_ rfl rfl
      intro saveMem
      rcases List.mem_map.mp saveMem with ⟨request, _, same⟩
      cases request <;> simp [locationCall] at same
  | whereAmIBlock pending => exact unchanged (by simp) rfl rfl

theorem locationManager_carryOutAll (app : App) (calls : List Call) :
    (app.carryOutAll calls).1.locationManager.currentLocation =
      app.locationManager.currentLocation := by
  apply carryOutAll_related (fun before after =>
    after.locationManager.currentLocation = before.locationManager.currentLocation)
  · exact fun _ => rfl
  · intro before middle after first second
    exact second.trans first
  · intro before after call _ carried
    cases carried <;> rfl

theorem position_of_reaction {before after : LocationManager} {event : LocationManager.Event}
    {outputs : List LocationManager.Output}
    (reaction : LocationManager.Reaction before event after outputs) :
    after.currentLocation.coordinate =
      (fix (.location event)).getD before.currentLocation.coordinate := by
  cases reaction with
  | didUpdateLocations updated =>
      rcases LocationManager.didUpdateLocations_frame updated with ⟨location, rest, count, rfl, rfl⟩
      rfl
  | showRoute showed =>
      rcases LocationManager.showRoute_frame showed with ⟨moveCount, nextMove, rfl⟩
      rfl
  | directionsAnswered showed =>
      rcases LocationManager.showRoute_frame showed with ⟨moveCount, nextMove, rfl⟩
      rfl
  | geocoded answered =>
      rcases LocationManager.geocoded_frame answered with ⟨addressString, rfl⟩
      rfl
  | visionWillAppear controller =>
      rcases LocationManager.visionWillAppear_frame before controller with
        ⟨coordinates, isLocalDestination, frame⟩
      rw [frame]
      rfl
  | didFailWithError => rfl
  | setDestinationCoordinate newValue => rfl
  | takeMeThere => rfl
  | initRoute => rfl
  | directionsFailed index => rfl
  | getUserLocatoin => rfl

theorem position_of_step {before after : App} {event : Event} {outputs : List Output}
    (navigated : before.Navigated) (step : machine.Step before event after outputs) :
    after.locationManager.currentLocation.coordinate =
      (fix event).getD before.locationManager.currentLocation.coordinate := by
  rcases delivered_of_step navigated step with ⟨middle, calls, delivered, carried⟩
  have reached := locationManager_carryOutAll middle calls
  rw [carried] at reached
  rw [reached]
  cases delivered with
  | location isEnabled handled =>
      exact position_of_reaction (LocationManager.reaction_of_handle handled)
  | launch notLaunched => rfl
  | home isEnabled handled => rfl
  | vision present isEnabled handled received => rfl
  | back covered => rfl
  | speech isEnabled received => rfl
  | whereAmIBlock pending => rfl

/-- One launch of the app appends to the store what was saved in it, where it was saved. -/
theorem savedPositions_of_run {realm : RealmManager} {events : List Event} {app : App}
    (run : machine.Run (start realm) events app) :
    app.locationManager.currentLocation.coordinate = positionAfter {} events ∧
      ∃ added, app.realm.locations = realm.locations ++ added ∧
        added.map LocationModel.coordinate = savedPositions {} events := by
  induction run with
  | refl => exact ⟨rfl, [], by simp [start], rfl⟩
  | @snoc events before after event outputs earlier step ih =>
      rcases ih with ⟨here, added, stored, positions⟩
      have navigated := navigated_of_reachable earlier.reachable
      constructor
      · rw [position_of_step navigated step, positionAfter_append, here]
        rfl
      · refine ⟨added ++ if savesHere event then [before.newLocation] else [], ?_, ?_⟩
        · rw [realm_of_step navigated step, stored, List.append_assoc]
        · rw [List.map_append, positions, savedPositions_append, ← here]
          congr 1
          simp only [savedPositions, List.append_nil]
          split <;> rfl

/-- Launches of the app one after the other, each on the store that the one before left. -/
inductive Launches (realm : RealmManager) : List (List Event) → RealmManager → Prop where
  | none : Launches realm [] realm
  | next {launches : List (List Event)} {left : RealmManager} {events : List Event} {app : App} :
      Launches realm launches left → machine.Run (start left) events app →
        Launches realm (launches ++ [events]) app.realm

/-- After any launches, the store holds what it held before them, followed by one location for every
swipe that saved, at the position of the last fix of that launch before the swipe. The next launch
lists all of it. -/
theorem launches_savedPositions {realm left : RealmManager} {launches : List (List Event)}
    (launched : Launches realm launches left) :
    (∃ added, left.locations = realm.locations ++ added ∧
      added.map LocationModel.coordinate = launches.flatMap (savedPositions {})) ∧
      ∀ app outputs, machine.Step (start left) .launch app outputs →
        app.home.localLocationList = left.locations := by
  constructor
  · induction launched with
    | none => exact ⟨[], by simp, rfl⟩
    | next _ run ih =>
        rcases ih with ⟨earlier, stored, positions⟩
        rcases savedPositions_of_run run with ⟨_, added, appended, here⟩
        refine ⟨earlier ++ added, ?_, ?_⟩
        · rw [appended, stored, List.append_assoc]
        · rw [List.map_append, positions, here, List.flatMap_append]
          simp
  · intro app outputs step
    have listed := step.2
    simp only [machine, handle, Except.ok.injEq, Prod.mk.injEq] at listed
    rw [← listed.1]
    rfl

def lobbyFix : CLLocation where
  coordinate := ⟨⟨0x4051875000000000⟩, ⟨0x404D812E00000000⟩⟩

def saveTwice : List Event :=
  [.launch, .home (.swipe .left), .location (.didUpdateLocations [lobbyFix]), .home (.swipe .left)]

def saveWalking : List Event :=
  [.launch, .home (.swipe .right), .vision 0 (.swipe .down)]

/-- Each launch begins at the position that `CLLocation()` has. -/
theorem saveTwice_positions :
    ∃ left, Launches {} [saveTwice, saveWalking] left ∧
      ∃ added, left.locations = [] ++ added ∧
        added.map LocationModel.coordinate = [{}, lobbyFix.coordinate, {}] := by
  have first : machine.Run (start {}) saveTwice ((machine.exec (start {}) saveTwice).getD {}) :=
    .of_exec rfl
  have second : machine.Run (start ((machine.exec (start {}) saveTwice).getD {}).realm) saveWalking
      ((machine.exec (start ((machine.exec (start {}) saveTwice).getD {}).realm)
        saveWalking).getD {}) := .of_exec rfl
  have launched := Launches.next (.next .none first) second
  exact ⟨_, launched, (launches_savedPositions launched).1⟩

end VisionApp.App
