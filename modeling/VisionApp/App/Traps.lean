import VisionApp.App.Calls
import VisionApp.Location.RouteScan
import VisionApp.ViewController.Selection

/-!
# How the app ends

Which events end the app, in which state, and with which run-time error. The
calls that a callback makes on other components never fail, but for the command
that meets no delegate, so each component answers for itself.

This is under what the model assumes of the frameworks: the commit of a save
succeeds (what a failing one does is in `VisionApp.Realm.Saves`), directions are
answered with a response or an error, the classifier's model can be loaded, and
no framework raises an exception of its own, as UIKit may for the row that it is
asked to scroll to.
-/

namespace VisionApp

/-- The computation ends in `trap`, or without one. -/
def EndsWith {Value : Type} (computation : Except Trap Value) (trap : Option Trap) : Prop :=
  ∀ reached, computation = .error reached ↔ trap = some reached

namespace EndsWith

variable {First Second : Type} {computation : Except Trap First} {trap : Option Trap}

theorem ok (value : First) : EndsWith (.ok value) none := by
  intro reached
  simp

theorem error (reached : Trap) : EndsWith (.error reached : Except Trap First) (some reached) := by
  intro other
  simp

theorem map (ends : EndsWith computation trap) (function : First → Second) :
    EndsWith (computation.map function) trap := by
  intro reached
  rw [← ends reached]
  cases computation <;> simp [Except.map]

/-- What follows a computation without failing does not change how it ends. -/
theorem bind (ends : EndsWith computation trap) {next : First → Except Trap Second}
    (proceeds : ∀ value, computation = .ok value → EndsWith (next value) none) :
    EndsWith (computation >>= next) trap := by
  cases computed : computation with
  | error reached =>
      intro other
      rw [← ends other, computed]
      simp [Bind.bind, Except.bind]
  | ok value =>
      have noTrap : trap = none := by
        rw [computed] at ends
        cases trap with
        | none => rfl
        | some reached => simpa using (ends reached).mpr rfl
      rw [noTrap]
      exact proceeds value computed

end EndsWith

namespace LocationManager

/-- A result that `searchLocationList` cannot convert. -/
def isIncomplete (mapItem : MKMapItem) : Bool :=
  mapItem.name.isNone || mapItem.title.isNone

/-- The first route that the scan reads has no instruction. -/
def runsPast (manager : LocationManager) (response : DirectionsResponse) : Bool :=
  (changedRoutes manager.moveCount response.routes).head?.any (fun route =>
    (firstInstruction route.steps).isNone)

/-- The run-time error that an event ends in. -/
def trap (manager : LocationManager) : Event → Option Trap
  | .didUpdateLocations locations =>
      if InRange 0 locations then none else some .indexOutOfRange
  | .showRoute response =>
      if manager.runsPast response then some .indexOutOfRange else none
  | .directionsCompleted _ (some response) =>
      if manager.runsPast response then some .indexOutOfRange else none
  | .geocoded _ none => some .unexpectedNil
  | _ => none

end LocationManager

namespace HomeViewController

def trap (home : HomeViewController) : Event → Option Trap
  | .swipe .right =>
      if home.searchBarText.isEmpty ∨ InRange home.locationSelectionCounter home.localLocationList
      then none else some .indexOutOfRange
  | .navigateToVision isLocalLocation =>
      if isLocalLocation ∨ InRange home.locationSelectionCounter home.localLocationList
      then none else some .indexOutOfRange
  | .searchCompleted index (some mapItems) =>
      if index < home.searches.length ∧ mapItems.any LocationManager.isIncomplete
      then some .unexpectedNil else none
  | .cellForRowAt row => if InRange row home.localLocationList then none else some .indexOutOfRange
  | _ => none

end HomeViewController

namespace VisionViewController

def trap (controller : VisionViewController) : Event → Option Trap
  | .longPress => some .unrecognizedSelector
  | .sessionDidUpdate _ trackingIsNormal orientation =>
      if controller.currentBuffer = none ∧ trackingIsNormal ∧ ¬isImageOrientation orientation
      then some .unexpectedNil else none
  | .taskPerformed none none => some .unexpectedNil
  | _ => none

end VisionViewController

namespace App

open EventMachine

/-- A command was recognised, but no vision screen was opened yet. -/
def commandUnreceived (app : App) : Bool :=
  app.speechManager.currentSpeechCommad = .voiceCommandAwakeInteractor && app.recognised.isSome &&
    app.visionDelegate.isNone

/-- The run-time error of an event, when no commit fails under `try!`. -/
def trap (app : App) : Event → Option Trap
  | .home event => app.home.trap event
  | .vision screen event => app.visions[screen]?.bind (fun controller => controller.trap event)
  | .speech .voiceInputAction => if app.commandUnreceived then some .unexpectedNil else none
  | .location event => app.locationManager.trap event
  | _ => none

/-- With the text "Office" searched for and nothing found, a swipe to the right ends the app. -/
def nothingFound : List Event :=
  [.launch, .home (.textDidChange "Office"), .home (.searchTimer [])]

end App

end VisionApp
