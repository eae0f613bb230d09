import VisionApp.App.Delegation
import VisionApp.ViewController.Selection

/-!
# The destination of a walk

`NavigateToVision` gives the chosen location to a controller it makes itself. The
segue presents another controller, which it makes from the storyboard, and
nobody gives that one a destination.
-/

namespace VisionApp.App

open EventMachine EventMachine.Machine

/-- The step runs `NavigateToVision(isLocalLocation: false)` of the home screen, by a swipe or as a
command, while the counter is at `location`. -/
def NavigatesTo (before : App) (event : Event) (location : LocationModel) : Prop :=
  (event = .home (.swipe .right) ∧ before.home.searchBarText.isEmpty = false ∨
    ReadsCommand before event ∧ before.recognised = some (.navigateToVision false) ∧
      before.visionDelegate = some .home) ∧
    subscript before.home.localLocationList before.home.locationSelectionCounter = .ok location

/-- The screen on top has `location` as its destination, and so has the location manager. -/
def Presents (app : App) (location : LocationModel) : Prop :=
  (∃ screen controller, app.onScreen = some (.vision screen) ∧
    app.visions[screen]? = some controller ∧ controller.destinationLocation = some location) ∧
    app.locationManager.destinationCoordinate = location.coordinate

theorem newest_visions (visions : List VisionViewController) (controller : VisionViewController) :
    (visions ++ [controller])[visions.length]? = some controller := by
  simp

/-- The segue presents a screen without a destination and leaves the location manager alone. -/
theorem performSegue_eq (app : App) :
    app.performSegue =
      { app with
        visions := app.visions ++ [({} : VisionViewController).viewWillAppear.1]
        stack := .vision app.visions.length :: app.stack
        visionDelegate := some (.vision app.visions.length)
        observers := app.observers ++ [app.visions.length] } := by
  simp only [performSegue, visionViewWillAppear, visionViewDidLoad, newest_visions]
  simp [LocationManager.visionWillAppear, VisionViewController.viewWillAppear]

theorem not_presents_performSegue (app : App) (location : LocationModel) :
    ¬app.performSegue.Presents location := by
  rintro ⟨⟨screen, controller, isShown, present, isDestination⟩, _⟩
  rw [performSegue_eq] at isShown present
  simp only [onScreen, List.head?_cons, Option.some.injEq, Controller.vision.injEq] at isShown
  rw [← isShown, newest_visions] at present
  rcases Option.some.inj present with rfl
  simp [VisionViewController.viewWillAppear] at isDestination

theorem inRange_of_subscript {locations : List LocationModel} {counter : ℤ}
    {location : LocationModel} (found : subscript locations counter = .ok location) :
    InRange counter locations := by
  by_contra outside
  rw [subscript_eq_error_iff.mpr outside] at found
  simp at found

/-- No navigation of the home screen presents the location that it navigates to. -/
theorem navigation_loses_destination {realm : RealmManager} {before : App} {event : Event}
    {location : LocationModel} (reached : machine.Reachable (start realm) before)
    (isEnabled : machine.enabled before event = true)
    (navigates : before.NavigatesTo event location) :
    ∃ after outputs, machine.Step before event after outputs ∧ ¬after.Presents location := by
  rcases navigates with ⟨⟨rfl, searching⟩ | ⟨_, _, isDelegate⟩, found⟩
  · have inRange := inRange_of_subscript found
    have navigated : before.home.handle (.swipe .right) =
        .ok (before.home, [.performSegue "VisionIdentifier"]) :=
      HomeViewController.navigateToVision_of_ok (fun _ => inRange)
    refine ⟨before.performSegue, [], ⟨isEnabled, ?_⟩, not_presents_performSegue before location⟩
    simp only [machine, handle, runHome, navigated]
    rfl
  · rcases ((navigated_of_reachable reached).delegate .home).mp isDelegate with ⟨screen, _, same⟩
    simp at same

def lobby : LocationModel where
  locationName := "Lobby"
  locatoinLatitude := ⟨0x4051875000000000⟩
  locationLongitude := ⟨0x404D812E00000000⟩

def searchAndSwipe : List Event :=
  [.launch, .home (.textDidChange "Lobby"), .home (.swipe .right)]

theorem navigation_loses_lobby :
    ∃ before, machine.Run (start ⟨[lobby]⟩) (searchAndSwipe.take 2) before ∧
      ∃ after outputs, machine.Step before (.home (.swipe .right)) after outputs ∧
        ¬after.Presents lobby :=
  ⟨_, .of_exec rfl, navigation_loses_destination ⟨searchAndSwipe.take 2, .of_exec rfl⟩ rfl
    ⟨Or.inl ⟨rfl, by decide⟩, rfl⟩⟩

/-- The screen that opens is in walking mode. -/
theorem searchAndSwipe_walks :
    ∃ before after, machine.Run (start ⟨[lobby]⟩) (searchAndSwipe.take 2) before ∧
      before.NavigatesTo (.home (.swipe .right)) lobby ∧
      machine.Step before (.home (.swipe .right)) after [] ∧
      after.visions = [{ title := some "Walking" }] ∧ ¬after.Presents lobby := by
  refine ⟨_, _, .of_exec rfl, ⟨Or.inl ⟨rfl, by decide⟩, rfl⟩, ⟨rfl, rfl⟩, rfl, ?_⟩
  rintro ⟨_, sameCoordinate⟩
  exact absurd sameCoordinate (by decide)

end VisionApp.App
