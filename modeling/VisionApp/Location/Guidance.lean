import VisionApp.EventMachine.History
import VisionApp.Location.LocationManager

/-!
# When a location update asks for a route

`didUpdateLocations` asks for a route when `isLocalDestination` is false or
`getRoute` is true. Nothing in the app writes `getRoute`, and the only write to
`isLocalDestination`, in the setter of `destinationCoordinate`, stores the value
it already has. So no location update ever asks for a route.
-/

namespace VisionApp.LocationManager

open EventMachine EventMachine.Machine

/-- What the vision screen was last opened with, and whether a destination was ever set. -/
structure GuidanceHistory where
  lastOpening : Option (Option LocationModel) := none
  destinationSet : Bool := false
deriving DecidableEq, Repr

def GuidanceHistory.observe (history : GuidanceHistory) : Event → GuidanceHistory
  | .visionWillAppear controller =>
      { lastOpening := some controller.destinationLocation
        destinationSet := history.destinationSet || controller.destinationLocation.isSome }
  | .setDestinationCoordinate _ => { history with destinationSet := true }
  | _ => history

def guidanceMachine :=
  machine.observed (fun history _ event _ _ => GuidanceHistory.observe history event)

def issued (before : LocationManager) (event : Event) : List MKDirections :=
  match before.handle event with
  | .ok (after, _) => after.directions.drop before.directions.length
  | .error _ => []

/-- A location update asks for one route, to the current destination, if the vision screen was last
opened with a destination, and for none if it was opened without or no destination was set. -/
def GuidanceLaw (before : LocationManager × GuidanceHistory) (event : Event) : Prop :=
  ∀ locations, event = .didUpdateLocations locations →
    (∀ destination, before.2.lastOpening = some (some destination) →
      before.1.issued event = [{ destination := before.1.destinationCoordinate }]) ∧
      (before.2.destinationSet = false ∨ before.2.lastOpening = some none →
        before.1.issued event = [])

/-- The event is no location update on a screen that was opened with a destination. -/
def Unguided (before : LocationManager × GuidanceHistory) (event : Event) : Prop :=
  ∀ locations destination, event = .didUpdateLocations locations →
    before.2.lastOpening ≠ some (some destination)

def FlagsInitial (manager : LocationManager) : Prop :=
  manager.isLocalDestination = true ∧ manager.getRoute = false

theorem didUpdateLocations_of_flagsInitial {manager after : LocationManager}
    {locations : List CLLocation} (flags : manager.FlagsInitial)
    (updated : manager.didUpdateLocations locations = .ok after) :
    ∃ location, after = { manager with currentLocation := location } := by
  rcases flags with ⟨isLocal, noRoute⟩
  simp only [didUpdateLocations, bind_eq_ok_iff, pure_eq_ok_iff] at updated
  rcases updated with ⟨location, _, rfl⟩
  refine ⟨location, ?_⟩
  simp [isLocal, noRoute]

theorem flagsInitial_visionWillAppear {manager : LocationManager}
    (flags : manager.FlagsInitial) (controller : VisionViewController) :
    (manager.visionWillAppear controller).FlagsInitial := by
  simp only [visionWillAppear]
  split
  · exact ⟨rfl, flags.2⟩
  · exact flags

theorem flagsInitial_showRoute {manager after : LocationManager} {response : DirectionsResponse}
    {messages : List String} (flags : manager.FlagsInitial)
    (showed : manager.showRoute response = .ok (after, messages)) : after.FlagsInitial := by
  rcases showRoute_frame showed with ⟨moveCount, nextMove, frame⟩
  rw [frame]
  exact flags

theorem flagsInitial_preserved : machine.Preserved FlagsInitial := by
  intro before event after outputs flags step
  cases reaction_of_handle step.2 with
  | didUpdateLocations updated =>
      rcases didUpdateLocations_of_flagsInitial flags updated with ⟨location, rfl⟩
      exact flags
  | visionWillAppear controller => exact flagsInitial_visionWillAppear flags controller
  | setDestinationCoordinate newValue => exact ⟨rfl, flags.2⟩
  | showRoute showed => exact flagsInitial_showRoute flags showed
  | directionsAnswered showed =>
      apply flagsInitial_showRoute _ showed
      exact flags
  | geocoded answered =>
      rcases geocoded_frame answered with ⟨addressString, rfl⟩
      exact flags
  | didFailWithError => exact flags
  | takeMeThere => exact flags
  | initRoute => exact flags
  | directionsFailed index => exact flags
  | getUserLocatoin => exact flags

theorem issued_didUpdateLocations {before : LocationManager} (flags : before.FlagsInitial)
    (locations : List CLLocation) : before.issued (.didUpdateLocations locations) = [] := by
  simp only [issued]
  split
  · rename_i after outputs handled
    cases reaction_of_handle handled with
    | didUpdateLocations updated =>
        rcases didUpdateLocations_of_flagsInitial flags updated with ⟨location, rfl⟩
        exact List.drop_length
  · rfl

theorem guidanceLaw_iff {before : LocationManager × GuidanceHistory} {event : Event}
    (flags : before.1.FlagsInitial) : GuidanceLaw before event ↔ Unguided before event := by
  constructor
  · rintro law locations destination rfl opened
    have issuedOne := (law locations rfl).1 destination opened
    rw [issued_didUpdateLocations flags] at issuedOne
    simp at issuedOne
  · rintro unguided locations rfl
    constructor
    · intro destination opened
      exact absurd opened (unguided locations destination rfl)
    · intro _
      exact issued_didUpdateLocations flags locations

/-- Location updates ask for routes as they should, throughout a run, exactly when none arrives
while the vision screen was last opened with a destination. -/
theorem guidance_iff_unguided (events : List Event) :
    guidanceMachine.Always GuidanceLaw ({}, {}) events ↔
      guidanceMachine.Always Unguided ({}, {}) events := by
  apply Always.congr
  rintro before event ⟨earlier, run⟩ _
  apply guidanceLaw_iff
  exact run.forget.invariant flagsInitial_preserved ⟨rfl, rfl⟩

def openedWithDestination : List Event :=
  [.visionWillAppear { destinationLocation := some { locationName := "Lobby" } },
    .didUpdateLocations [{}]]

/-- No route is asked for. -/
theorem openedWithDestination_silent :
    (∃ finish, machine.Run {} openedWithDestination finish ∧ finish.directions = []) ∧
      ¬guidanceMachine.Always GuidanceLaw ({}, {}) openedWithDestination := by
  refine ⟨⟨_, .of_exec rfl, rfl⟩, ?_⟩
  apply Always.not_of_exec (openedWithDestination.take 1) [] rfl rfl
  intro law
  have issuedOne := (law [{}] rfl).1 { locationName := "Lobby" } rfl
  revert issuedOne
  decide

end VisionApp.LocationManager
