import VisionApp.EventMachine.History
import VisionApp.Location.LocationManager

/-!
# Where the user is taken to be

Core Location delivers its fixes in batches, each from the oldest to the newest.
`didUpdateLocations` keeps the first fix of a batch, which is the newest only in
a batch of one. The two operations that use the position take what is kept at
that moment, and before the first batch this is the location that the manager
was made with.
-/

namespace VisionApp

/-- The location manager with the store that it saves to. -/
structure LocationStore where
  locationManager : LocationManager := {}
  realm : RealmManager := {}
deriving DecidableEq, Repr

namespace LocationStore

open EventMachine EventMachine.Machine

/-- `LocationManager.saveCurrentLocation`, with the name and placemark that it gets from
`inputsToSaveLocation`. -/
def saveCurrentLocation (store : LocationStore) (locInput : String × String) : LocationStore :=
  { store with realm := store.realm.saveLocation (store.locationManager.newLocation locInput) }

inductive Event where
  | location (event : LocationManager.Event)
  | saveCurrentLocation (locInput : String × String)
deriving DecidableEq, Repr

inductive Output where
  | location (output : LocationManager.Output)
  | completion (isSuccess : Bool)
deriving DecidableEq, Repr

def enabled (store : LocationStore) : Event → Bool
  | .location event => store.locationManager.enabled event
  | .saveCurrentLocation _ => true

def handle (store : LocationStore) : Event → Except Trap (LocationStore × List Output)
  | .location event => do
      let (locationManager, outputs) ← store.locationManager.handle event
      return ({ store with locationManager := locationManager }, outputs.map Output.location)
  | .saveCurrentLocation locInput => .ok (store.saveCurrentLocation locInput, [.completion true])

def machine : EventMachine.Machine LocationStore Event Output Trap where
  enabled := enabled
  handle := handle

structure FixHistory where
  /-- The fixes delivered so far, the newest last. -/
  delivered : List CLLocation := []
  /-- The batch delivered last. -/
  batch : List CLLocation := []
deriving DecidableEq, Repr

def FixHistory.observe (history : FixHistory) : Event → FixHistory
  | .location (.didUpdateLocations locations) =>
      { delivered := history.delivered ++ locations, batch := locations }
  | _ => history

def fixMachine :=
  machine.observed (fun history _ event _ _ => FixHistory.observe history event)

/-- The positions that a step hands to the geocoder and stores. -/
def usedPositions (before after : LocationStore) : List CLLocationCoordinate2D :=
  (after.locationManager.geocodes.drop before.locationManager.geocodes.length).map
      CLLocation.coordinate ++
    (after.realm.locations.drop before.realm.locations.length).map LocationModel.coordinate

/-- A fix was delivered, and the newest one is at every position that the step uses. -/
def PositionLaw (before : LocationStore × FixHistory) (event : Event) : Prop :=
  ∀ after outputs, before.1.handle event = .ok (after, outputs) →
    ∀ position ∈ before.1.usedPositions after,
      ∃ newest, before.2.delivered.getLast? = some newest ∧ position = newest.coordinate

def requestsPosition : Event → Bool
  | .location .getUserLocatoin | .saveCurrentLocation _ => true
  | _ => false

/-- The position is asked for after a batch that ends where it begins. -/
def PositionCondition (before : LocationStore × FixHistory) (event : Event) : Prop :=
  requestsPosition event = true →
    ∃ oldest newest, before.2.batch.head? = some oldest ∧
      before.2.batch.getLast? = some newest ∧ oldest.coordinate = newest.coordinate

/-- A step moves the manager to the first fix of a batch, or leaves it where it is and uses the
position when it is asked for. -/
inductive PositionStep (before : LocationStore) : Event → LocationStore → Prop where
  | moved {location : CLLocation} {rest : List CLLocation} {after : LocationStore}
      (arrived : after.locationManager.currentLocation = location)
      (unused : before.usedPositions after = []) :
      PositionStep before (.location (.didUpdateLocations (location :: rest))) after
  | rested {event : Event} {after : LocationStore}
      (kept : after.locationManager.currentLocation = before.locationManager.currentLocation)
      (undelivered : ∀ history, FixHistory.observe history event = history)
      (used : before.usedPositions after =
        if requestsPosition event then [before.locationManager.currentLocation.coordinate]
        else []) :
      PositionStep before event after

theorem usedPositions_of_noneAdded {before : LocationStore} {locationManager : LocationManager}
    (noneAdded : locationManager.geocodes.length ≤ before.locationManager.geocodes.length) :
    before.usedPositions { before with locationManager := locationManager } = [] := by
  simp [usedPositions, List.drop_eq_nil_of_le noneAdded]

theorem positionStep_of_unasked {before : LocationStore} {event : LocationManager.Event}
    {locationManager : LocationManager}
    (unasked : requestsPosition (.location event) = false)
    (undelivered : ∀ history, FixHistory.observe history (.location event) = history)
    (kept : locationManager.currentLocation = before.locationManager.currentLocation)
    (noneAdded : locationManager.geocodes.length ≤ before.locationManager.geocodes.length) :
    PositionStep before (.location event) { before with locationManager := locationManager } := by
  apply PositionStep.rested kept undelivered
  rw [usedPositions_of_noneAdded noneAdded, unasked]
  rfl

theorem positionStep_didUpdateLocations {before : LocationStore} {locations : List CLLocation}
    {locationManager : LocationManager}
    (updated : before.locationManager.didUpdateLocations locations = .ok locationManager) :
    PositionStep before (.location (.didUpdateLocations locations))
      { before with locationManager := locationManager } := by
  rcases LocationManager.didUpdateLocations_frame updated with ⟨location, rest, count, rfl, rfl⟩
  exact .moved rfl (usedPositions_of_noneAdded le_rfl)

theorem positionStep_of_reaction {before : LocationStore} {event : LocationManager.Event}
    {locationManager : LocationManager} {outputs : List LocationManager.Output}
    (reaction : LocationManager.Reaction before.locationManager event locationManager outputs) :
    PositionStep before (.location event) { before with locationManager := locationManager } := by
  cases reaction with
  | didUpdateLocations updated => exact positionStep_didUpdateLocations updated
  | getUserLocatoin =>
      refine .rested ?_ (fun _ => rfl) ?_
      · rfl
      · simp [usedPositions, requestsPosition, LocationManager.getUserLocatoin]
  | visionWillAppear controller =>
      rcases LocationManager.visionWillAppear_frame before.locationManager controller with
        ⟨_, _, frame⟩
      rw [frame]
      exact positionStep_of_unasked rfl (fun _ => rfl) rfl le_rfl
  | showRoute showed =>
      rcases LocationManager.showRoute_frame showed with ⟨moveCount, nextMove, rfl⟩
      exact positionStep_of_unasked rfl (fun _ => rfl) rfl le_rfl
  | directionsAnswered showed =>
      rcases LocationManager.showRoute_frame showed with ⟨moveCount, nextMove, rfl⟩
      exact positionStep_of_unasked rfl (fun _ => rfl) rfl le_rfl
  | geocoded answered =>
      rcases LocationManager.geocoded_frame answered with ⟨addressString, rfl⟩
      exact positionStep_of_unasked rfl (fun _ => rfl) rfl (List.length_eraseIdx_le _ _)
  | didFailWithError => exact positionStep_of_unasked rfl (fun _ => rfl) rfl le_rfl
  | setDestinationCoordinate newValue =>
      exact positionStep_of_unasked rfl (fun _ => rfl) rfl le_rfl
  | takeMeThere => exact positionStep_of_unasked rfl (fun _ => rfl) rfl le_rfl
  | initRoute => exact positionStep_of_unasked rfl (fun _ => rfl) rfl le_rfl
  | directionsFailed index => exact positionStep_of_unasked rfl (fun _ => rfl) rfl le_rfl

theorem positionStep_of_handle {before after : LocationStore} {event : Event}
    {outputs : List Output} (handled : before.handle event = .ok (after, outputs)) :
    PositionStep before event after := by
  cases event with
  | location event =>
      simp only [handle, bind_eq_ok_iff, pure_eq_ok_iff, Prod.mk.injEq] at handled
      rcases handled with ⟨⟨locationManager, managerOutputs⟩, managerHandled, rfl, _⟩
      exact positionStep_of_reaction (LocationManager.reaction_of_handle managerHandled)
  | saveCurrentLocation locInput =>
      simp only [handle, Except.ok.injEq, Prod.mk.injEq] at handled
      rcases handled with ⟨rfl, _⟩
      refine .rested ?_ (fun _ => rfl) ?_
      · rfl
      · simp [usedPositions, requestsPosition, saveCurrentLocation, RealmManager.saveLocation,
          LocationManager.newLocation, LocationModel.coordinate]

/-- The manager is at the first fix of the batch delivered last. -/
structure FirstKept (state : LocationStore × FixHistory) : Prop where
  newest : state.2.delivered.getLast? = state.2.batch.getLast?
  kept : state.1.locationManager.currentLocation = state.2.batch.head?.getD {}

theorem firstKept_preserved : fixMachine.Preserved FirstKept := by
  apply observed_preserved
  intro before history event after outputs firstKept step
  cases positionStep_of_handle step.2 with
  | moved arrived _ =>
      exact ⟨List.getLast?_append_of_ne_nil _ (List.cons_ne_nil _ _), arrived⟩
  | rested kept undelivered _ =>
      rw [undelivered]
      exact ⟨firstKept.newest, kept.trans firstKept.kept⟩

theorem handled_of_requests (store : LocationStore) {event : Event}
    (requested : requestsPosition event = true) :
    ∃ after outputs, store.handle event = .ok (after, outputs) := by
  cases event with
  | saveCurrentLocation locInput => exact ⟨_, _, rfl⟩
  | location event =>
      cases event with
      | getUserLocatoin => exact ⟨_, _, rfl⟩
      | _ => simp [requestsPosition] at requested

theorem positionLaw_iff {before : LocationStore × FixHistory} {event : Event}
    (firstKept : FirstKept before) : PositionLaw before event ↔ PositionCondition before event := by
  constructor
  · intro law requested
    rcases handled_of_requests before.1 requested with ⟨after, outputs, handled⟩
    cases positionStep_of_handle handled with
    | moved _ _ => simp [requestsPosition] at requested
    | rested _ _ used =>
        rw [if_pos requested] at used
        have usedMem : before.1.locationManager.currentLocation.coordinate ∈
            before.1.usedPositions after := by
          rw [used]
          exact List.mem_singleton_self _
        rcases law after outputs handled _ usedMem with ⟨newest, isNewest, same⟩
        rw [firstKept.newest] at isNewest
        rw [firstKept.kept] at same
        cases batch : before.2.batch with
        | nil => simp [batch] at isNewest
        | cons oldest rest =>
            rw [batch] at isNewest same
            exact ⟨oldest, newest, rfl, isNewest, same⟩
  · intro condition after outputs handled position positionMem
    cases positionStep_of_handle handled with
    | moved _ unused => simp [unused] at positionMem
    | rested _ _ used =>
        rw [used] at positionMem
        split at positionMem
        · rename_i requested
          rcases condition requested with ⟨oldest, newest, isOldest, isNewest, same⟩
          refine ⟨newest, firstKept.newest.trans isNewest, ?_⟩
          rw [List.mem_singleton.mp positionMem, firstKept.kept, isOldest]
          exact same
        · simp at positionMem

/-- The positions that a run uses are those of the newest fix exactly when each is asked for after a
batch that ends where it begins. -/
theorem positions_iff_condition (realm : RealmManager) (events : List Event) :
    fixMachine.Always PositionLaw ({ realm := realm }, {}) events ↔
      fixMachine.Always PositionCondition ({ realm := realm }, {}) events := by
  apply Always.congr
  intro before event reached _
  have initially : FirstKept ({ realm := realm }, {}) := ⟨rfl, rfl⟩
  exact positionLaw_iff (reached.invariant firstKept_preserved initially)

def gate : CLLocation :=
  { coordinate := { latitude := ⟨1⟩ } }

def fountain : CLLocation :=
  { coordinate := { latitude := ⟨2⟩ } }

def twoFixes : List Event :=
  [.location (.didUpdateLocations [gate, fountain]), .location .getUserLocatoin,
    .saveCurrentLocation ("Fountain", "Park Lane")]

def noFix : List Event :=
  [.saveCurrentLocation ("Fountain", "Park Lane")]

/-- The fountain is looked up and stored at the gate, and without any fix it is stored at the
coordinate zero. -/
theorem positions_misplaced :
    ((∃ finish, machine.Run {} twoFixes finish ∧ finish.locationManager.geocodes = [gate] ∧
      finish.realm.locations.map LocationModel.coordinate = [gate.coordinate]) ∧
      ¬fixMachine.Always PositionLaw ({}, {}) twoFixes) ∧
      ((∃ finish, machine.Run {} noFix finish ∧
        finish.realm.locations.map LocationModel.coordinate = [{}]) ∧
        ¬fixMachine.Always PositionLaw ({}, {}) noFix) := by
  refine ⟨⟨⟨_, .of_exec rfl, rfl, rfl⟩, ?_⟩, ⟨_, .of_exec rfl, rfl⟩, ?_⟩
  · apply Always.not_of_exec (twoFixes.take 2) [] rfl rfl
    intro law
    rcases law _ _ rfl gate.coordinate (List.mem_singleton_self _) with ⟨newest, isNewest, same⟩
    rcases Option.some.inj isNewest with rfl
    exact absurd same (by decide)
  · apply Always.not_of_exec (noFix.take 0) [] rfl rfl
    intro law
    rcases law _ _ rfl {} (List.mem_singleton_self _) with ⟨newest, isNewest, _⟩
    simp at isNewest

end LocationStore

end VisionApp
