import VisionApp.EventMachine.Basic
import VisionApp.ViewController.VisionViewController

/-!
# The location manager

One `LocationManager` follows the device, asks MapKit for walking directions and
turns the answers into spoken moves. Besides the stored properties of the class,
the record holds the directions and geocoding requests that have not been
answered. `nextMove` is the value under the only key `"NexStep"` of the source's
dictionary.

The map view (its region, overlays and renderer) is left out: nothing that is
said or saved depends on it. So are notices and distances, which are only
printed.
-/

namespace VisionApp

structure MKRouteStep where
  instructions : String
deriving DecidableEq, Repr

structure MKRoute where
  steps : List MKRouteStep
deriving DecidableEq, Repr

structure DirectionsResponse where
  routes : List MKRoute
deriving DecidableEq, Repr

/-- A walking-directions request from the current location, with the values it was built with. -/
structure MKDirections where
  destination : CLLocationCoordinate2D
  requestsAlternateRoutes : Bool := false
deriving DecidableEq, Repr

structure CLPlacemark where
  subLocality : Option String := none
  thoroughfare : Option String := none
  locality : Option String := none
  country : Option String := none
  postalCode : Option String := none
deriving DecidableEq, Repr

/-- A search result; names and titles are optional in MapKit. -/
structure MKMapItem where
  name : Option String
  title : Option String
  coordinate : CLLocationCoordinate2D
deriving DecidableEq, Repr

def intMax : ℤ := 2 ^ 63 - 1

structure LocationManager where
  currentLocation : CLLocation := {}
  moveCount : ℤ := intMax
  coordinates : CLLocationCoordinate2D := {}
  addressString : String := ""
  nextMove : String := "No move available"
  isLocalDestination : Bool := true
  getRoute : Bool := false
  /-- The directions being calculated, the oldest first. -/
  directions : List MKDirections := []
  /-- The locations being geocoded, the oldest first. -/
  geocodes : List CLLocation := []
deriving DecidableEq, Repr

namespace LocationManager

def destinationCoordinate (manager : LocationManager) : CLLocationCoordinate2D :=
  manager.coordinates

def setDestinationCoordinate (manager : LocationManager) (newValue : CLLocationCoordinate2D) :
    LocationManager :=
  { manager with
    coordinates := newValue
    isLocalDestination := true }

def takeMeThere (manager : LocationManager) : LocationManager :=
  { manager with
    directions := manager.directions ++ [{ destination := manager.destinationCoordinate }] }

/-- As `takeMeThere`, on a request object of its own. -/
def initRoute (manager : LocationManager) : LocationManager :=
  { manager with
    directions := manager.directions ++ [{ destination := manager.destinationCoordinate }] }

def didUpdateLocations (manager : LocationManager) (locations : List CLLocation) :
    Except Trap LocationManager := do
  let location ← subscript locations 0
  let manager := { manager with currentLocation := location }
  let manager := if !manager.isLocalDestination then manager.takeMeThere else manager
  return if manager.getRoute then manager.takeMeThere else manager

def lostMessage : String := "I lost my sense. I am sorry"

def didFailWithError (manager : LocationManager) : LocationManager × List String :=
  ({ manager with nextMove := lostMessage }, [lostMessage])

/-- The loop `while(audioMessage.isEmpty)`, where `remaining` are the steps from `counter` on. -/
def scanSteps (remaining : List MKRouteStep) (counter : ℕ) (audioMessage : String) :
    Except Trap (ℕ × String) :=
  if audioMessage.isEmpty then
    match remaining with
    | [] => .error .indexOutOfRange
    | step :: rest => scanSteps rest (counter + 1) step.instructions
  else .ok (counter, audioMessage)

/-- The loop over the routes of a response, with the instructions it posts. -/
def showRoutes : List MKRoute → ℕ → String → LocationManager →
    Except Trap (LocationManager × List String)
  | [], _, _, manager => .ok (manager, [])
  | route :: routes, counter, audioMessage, manager =>
      if manager.moveCount ≠ route.steps.length then
        match scanSteps (route.steps.drop counter) counter audioMessage with
        | .error trap => .error trap
        | .ok (counter, audioMessage) =>
            let manager := { manager with
              moveCount := route.steps.length
              nextMove := audioMessage }
            match showRoutes routes counter audioMessage manager with
            | .error trap => .error trap
            | .ok (manager, posted) => .ok (manager, audioMessage :: posted)
      else showRoutes routes counter audioMessage manager

def showRoute (manager : LocationManager) (response : DirectionsResponse) :
    Except Trap (LocationManager × List String) :=
  showRoutes response.routes 0 "" manager

def getUserLocatoin (manager : LocationManager) : LocationManager :=
  { manager with geocodes := manager.geocodes ++ [manager.currentLocation] }

def appendPart (addressString : String) (part : Option String) (separator : String) : String :=
  match part with
  | some text => addressString ++ text ++ separator
  | none => addressString

/-- The closure that `getUserLocatoin` gives to the geocoder, with the address it completes with. -/
def geocoded (manager : LocationManager) (placemarksArray : Option (List CLPlacemark)) :
    Except Trap (LocationManager × Option String) :=
  match placemarksArray with
  | none => .error .unexpectedNil
  | some [] => .ok (manager, none)
  | some (pm :: _) =>
      let addressString := appendPart manager.addressString pm.subLocality ", "
      let addressString := appendPart addressString pm.thoroughfare ", "
      let addressString := appendPart addressString pm.locality ", "
      let addressString := appendPart addressString pm.country ", "
      let addressString := appendPart addressString pm.postalCode " "
      .ok ({ manager with addressString := addressString }, some addressString)

def searchResult (mapItem : MKMapItem) : Except Trap LocationModel :=
  match mapItem.name, mapItem.title with
  | some name, some title =>
      .ok {
        locationName := name
        locationPlacemark := title
        locatoinLatitude := mapItem.coordinate.latitude
        locationLongitude := mapItem.coordinate.longitude }
  | _, _ => .error .unexpectedNil

def searchResults (mapItems : List MKMapItem) : Except Trap (List LocationModel) :=
  mapItems.mapM searchResult

/-- The location that `saveCurrentLocation` hands to `RealmManager.saveLocation`. -/
def newLocation (manager : LocationManager) (locInput : String × String) : LocationModel where
  locationName := locInput.1
  locationPlacemark := locInput.2
  locatoinLatitude := manager.currentLocation.coordinate.latitude
  locationLongitude := manager.currentLocation.coordinate.longitude

def visionWillAppear (manager : LocationManager) (controller : VisionViewController) :
    LocationManager :=
  match controller.viewWillAppear.2 with
  | some coordinate => manager.setDestinationCoordinate coordinate
  | none => manager

inductive Event where
  | didUpdateLocations (locations : List CLLocation)
  | didFailWithError
  | visionWillAppear (controller : VisionViewController)
  | setDestinationCoordinate (newValue : CLLocationCoordinate2D)
  | takeMeThere
  | initRoute
  | showRoute (response : DirectionsResponse)
  | directionsCompleted (index : ℕ) (response : Option DirectionsResponse)
  | getUserLocatoin
  | geocoded (index : ℕ) (placemarksArray : Option (List CLPlacemark))
deriving DecidableEq, Repr

inductive Output where
  | post (nexStep : String)
  | completion (location : String)
deriving DecidableEq, Repr

def enabled (manager : LocationManager) : Event → Bool
  | .directionsCompleted index _ => index < manager.directions.length
  | .geocoded index _ => index < manager.geocodes.length
  | _ => true

def posts (result : LocationManager × List String) : LocationManager × List Output :=
  (result.1, result.2.map Output.post)

def handle (manager : LocationManager) : Event → Except Trap (LocationManager × List Output)
  | .didUpdateLocations locations => do
      let manager ← manager.didUpdateLocations locations
      return (manager, [])
  | .didFailWithError => return posts manager.didFailWithError
  | .visionWillAppear controller => return (manager.visionWillAppear controller, [])
  | .setDestinationCoordinate newValue => return (manager.setDestinationCoordinate newValue, [])
  | .takeMeThere => return (manager.takeMeThere, [])
  | .initRoute => return (manager.initRoute, [])
  | .showRoute response => do
      let shown ← manager.showRoute response
      return posts shown
  | .directionsCompleted index response => do
      let manager := { manager with directions := manager.directions.eraseIdx index }
      match response with
      | some response =>
          let shown ← manager.showRoute response
          return posts shown
      | none => return (manager, [])
  | .getUserLocatoin => return (manager.getUserLocatoin, [])
  | .geocoded index placemarksArray => do
      let manager := { manager with geocodes := manager.geocodes.eraseIdx index }
      let (manager, location) ← manager.geocoded placemarksArray
      return (manager, (location.map Output.completion).toList)

/-- A response changes nothing but the last move and its number of steps. -/
theorem showRoutes_frame {routes : List MKRoute} {counter : ℕ} {audioMessage : String}
    {manager after : LocationManager} {posted : List String}
    (showed : showRoutes routes counter audioMessage manager = .ok (after, posted)) :
    ∃ moveCount nextMove,
      after = { manager with moveCount := moveCount, nextMove := nextMove } := by
  induction routes generalizing counter audioMessage manager posted with
  | nil =>
      simp only [showRoutes, Except.ok.injEq, Prod.mk.injEq] at showed
      exact ⟨manager.moveCount, manager.nextMove, showed.1.symm⟩
  | cons route routes ih =>
      simp only [showRoutes] at showed
      split at showed
      · split at showed
        · simp at showed
        · split at showed
          · simp at showed
          · rename_i rest
            simp only [Except.ok.injEq, Prod.mk.injEq] at showed
            rw [showed.1] at rest
            have frame := ih rest
            exact frame
      · exact ih showed

theorem showRoute_frame {manager after : LocationManager} {response : DirectionsResponse}
    {messages : List String} (showed : manager.showRoute response = .ok (after, messages)) :
    ∃ moveCount nextMove,
      after = { manager with moveCount := moveCount, nextMove := nextMove } :=
  showRoutes_frame showed

theorem didUpdateLocations_frame {before after : LocationManager} {locations : List CLLocation}
    (updated : before.didUpdateLocations locations = .ok after) :
    ∃ location rest count, locations = location :: rest ∧ after =
      { before with
        currentLocation := location
        directions := before.directions ++
          List.replicate count { destination := before.coordinates } } := by
  simp only [didUpdateLocations, bind_eq_ok_iff, pure_eq_ok_iff] at updated
  rcases updated with ⟨location, first, rfl⟩
  have found := (subscript_eq_ok_iff.mp first).2
  cases locations with
  | nil => simp at found
  | cons oldest rest =>
      rcases Option.some.inj found with rfl
      refine ⟨oldest, rest, (if !before.isLocalDestination then 1 else 0) +
        if before.getRoute then 1 else 0, rfl, ?_⟩
      cases before.isLocalDestination with
      | true =>
          cases before.getRoute with
          | true => rfl
          | false => simp
      | false =>
          cases before.getRoute with
          | true => simp [takeMeThere, destinationCoordinate]
          | false => rfl

theorem visionWillAppear_frame (manager : LocationManager) (controller : VisionViewController) :
    ∃ coordinates isLocalDestination,
      manager.visionWillAppear controller =
        { manager with
          coordinates := coordinates
          isLocalDestination := isLocalDestination } := by
  simp only [visionWillAppear]
  split
  · exact ⟨_, _, rfl⟩
  · exact ⟨_, _, rfl⟩

theorem geocoded_frame {before after : LocationManager}
    {placemarksArray : Option (List CLPlacemark)} {location : Option String}
    (answered : before.geocoded placemarksArray = .ok (after, location)) :
    ∃ addressString, after = { before with addressString := addressString } := by
  simp only [geocoded] at answered
  split at answered
  · simp at answered
  · simp only [Except.ok.injEq, Prod.mk.injEq] at answered
    exact ⟨before.addressString, answered.1.symm⟩
  · simp only [Except.ok.injEq, Prod.mk.injEq] at answered
    exact ⟨_, answered.1.symm⟩

/-- What handling an event without a fault leads to. -/
inductive Reaction (before : LocationManager) : Event → LocationManager → List Output → Prop where
  | didUpdateLocations {locations : List CLLocation} {after : LocationManager}
      (updated : before.didUpdateLocations locations = .ok after) :
      Reaction before (.didUpdateLocations locations) after []
  | didFailWithError :
      Reaction before .didFailWithError { before with nextMove := lostMessage } [.post lostMessage]
  | visionWillAppear (controller : VisionViewController) :
      Reaction before (.visionWillAppear controller) (before.visionWillAppear controller) []
  | setDestinationCoordinate (newValue : CLLocationCoordinate2D) :
      Reaction before (.setDestinationCoordinate newValue)
        (before.setDestinationCoordinate newValue) []
  | takeMeThere : Reaction before .takeMeThere before.takeMeThere []
  | initRoute : Reaction before .initRoute before.initRoute []
  | showRoute {response : DirectionsResponse} {after : LocationManager} {messages : List String}
      (showed : before.showRoute response = .ok (after, messages)) :
      Reaction before (.showRoute response) after (messages.map Output.post)
  | directionsAnswered {index : ℕ} {response : DirectionsResponse} {after : LocationManager}
      {messages : List String}
      (showed : ({ before with directions := before.directions.eraseIdx index }).showRoute
        response = .ok (after, messages)) :
      Reaction before (.directionsCompleted index (some response)) after
        (messages.map Output.post)
  | directionsFailed (index : ℕ) :
      Reaction before (.directionsCompleted index none)
        { before with directions := before.directions.eraseIdx index } []
  | getUserLocatoin : Reaction before .getUserLocatoin before.getUserLocatoin []
  | geocoded {index : ℕ} {placemarksArray : Option (List CLPlacemark)} {after : LocationManager}
      {location : Option String}
      (answered : ({ before with geocodes := before.geocodes.eraseIdx index }).geocoded
        placemarksArray = .ok (after, location)) :
      Reaction before (.geocoded index placemarksArray) after
        (location.map Output.completion).toList

theorem reaction_of_handle {before after : LocationManager} {event : Event}
    {outputs : List Output} (handled : before.handle event = .ok (after, outputs)) :
    Reaction before event after outputs := by
  cases event with
  | didUpdateLocations locations =>
      simp only [handle, bind_eq_ok_iff, pure_eq_ok_iff, Prod.mk.injEq] at handled
      rcases handled with ⟨middle, updated, rfl, rfl⟩
      exact .didUpdateLocations updated
  | showRoute response =>
      simp only [handle, posts, bind_eq_ok_iff, pure_eq_ok_iff, Prod.mk.injEq] at handled
      rcases handled with ⟨⟨reached, messages⟩, showed, rfl, rfl⟩
      exact .showRoute showed
  | directionsCompleted index response =>
      cases response with
      | none =>
          simp only [handle, pure_eq_ok_iff, Prod.mk.injEq] at handled
          rcases handled with ⟨rfl, rfl⟩
          exact .directionsFailed index
      | some response =>
          simp only [handle, posts, bind_eq_ok_iff, pure_eq_ok_iff, Prod.mk.injEq] at handled
          rcases handled with ⟨⟨reached, messages⟩, showed, rfl, rfl⟩
          exact .directionsAnswered showed
  | geocoded index placemarksArray =>
      simp only [handle, bind_eq_ok_iff, pure_eq_ok_iff, Prod.mk.injEq] at handled
      rcases handled with ⟨⟨reached, location⟩, answered, rfl, rfl⟩
      exact .geocoded answered
  | didFailWithError =>
      simp only [handle, posts, didFailWithError, pure_eq_ok_iff, Prod.mk.injEq] at handled
      rcases handled with ⟨rfl, rfl⟩
      exact .didFailWithError
  | visionWillAppear controller =>
      simp only [handle, pure_eq_ok_iff, Prod.mk.injEq] at handled
      rcases handled with ⟨rfl, rfl⟩
      exact .visionWillAppear controller
  | setDestinationCoordinate newValue =>
      simp only [handle, pure_eq_ok_iff, Prod.mk.injEq] at handled
      rcases handled with ⟨rfl, rfl⟩
      exact .setDestinationCoordinate newValue
  | takeMeThere =>
      simp only [handle, pure_eq_ok_iff, Prod.mk.injEq] at handled
      rcases handled with ⟨rfl, rfl⟩
      exact .takeMeThere
  | initRoute =>
      simp only [handle, pure_eq_ok_iff, Prod.mk.injEq] at handled
      rcases handled with ⟨rfl, rfl⟩
      exact .initRoute
  | getUserLocatoin =>
      simp only [handle, pure_eq_ok_iff, Prod.mk.injEq] at handled
      rcases handled with ⟨rfl, rfl⟩
      exact .getUserLocatoin

/-- The location manager in an environment that calls it and calls it back in any order. -/
def machine : EventMachine.Machine LocationManager Event Output Trap where
  enabled := enabled
  handle := handle

end LocationManager

end VisionApp
