import VisionApp.Location.LocationManager

/-!
# The home screen

`HomeViewController` lists the saved locations, lets the user move through them
by swipes, searches them by text or voice, and opens the vision screen. Besides
the stored properties, the record holds the text of the search bar, the search
timers and online searches that are outstanding, and the row count the table
view last read. What the handlers ask of other components is returned as
outputs, in the order of the calls. The keyboard and the navigation bar are left
out.
-/

namespace VisionApp

/-- The closure that an online search completes with. -/
inductive SearchCompletion where
  | searchBar
  | filterLocationList
deriving DecidableEq, Repr

structure MKLocalSearch where
  naturalLanguageQuery : String
  completion : SearchCompletion
deriving DecidableEq, Repr

structure HomeViewController where
  localLocationList : List LocationModel := []
  locationSelectionCounter : ℤ := 0
  searchEditingSemaphor : Bool := true
  searchBarText : String := ""
  /-- Pending 2 s timers of `searchBar(_:textDidChange:)`. -/
  searchTimers : ℕ := 0
  /-- The online searches without an answer, the oldest first. -/
  searches : List MKLocalSearch := []
  /-- The row count the table view last obtained, once it has been laid out or reloaded. -/
  tableRows : Option ℕ := none
deriving DecidableEq, Repr

namespace HomeViewController

inductive Output where
  | voiceOutput (message : String) (commandType : VoiceCommand)
  | scrollToRow (row : ℤ)
  | performSegue (identifier : String)
  | saveThisLocation
  | whereAmI
deriving DecidableEq, Repr

def viewWillAppear (home : HomeViewController) (saved : List LocationModel) :
    HomeViewController :=
  { home with localLocationList := saved }

def numberOfRowsInSection (home : HomeViewController) : ℕ :=
  home.localLocationList.length

def reloadData (home : HomeViewController) : HomeViewController :=
  { home with tableRows := some home.numberOfRowsInSection }

def cellForRowAt (home : HomeViewController) (row : ℕ) : Except Trap String := do
  let location ← subscript home.localLocationList row
  return location.locationName

def selectDestination (home : HomeViewController) :
    Except Trap (HomeViewController × List Output) :=
  if home.locationSelectionCounter < 0 ∨
      home.locationSelectionCounter > home.localLocationList.length - 1 then
    .ok ({ home with locationSelectionCounter := 0 },
      [.voiceOutput "No more location available" .voiceCommandInfo])
  else do
    let location ← subscript home.localLocationList home.locationSelectionCounter
    return (home, [.voiceOutput location.locationName .voiceCommandInfo])

def visionViewController (home : HomeViewController) (isLocalLocation : Bool) :
    Except Trap VisionViewController :=
  if !isLocalLocation then do
    let location ← subscript home.localLocationList home.locationSelectionCounter
    return { destinationLocation := some location }
  else return {}

-- The segue is not told of the controller, which is gone when the function returns.
def navigateToVision (home : HomeViewController) (isLocalLocation : Bool) :
    Except Trap (HomeViewController × List Output) := do
  let _visionViewController ← home.visionViewController isLocalLocation
  return (home, [.performSegue "VisionIdentifier"])

def searchLocationList (home : HomeViewController) (locationInput : String)
    (completion : SearchCompletion) : HomeViewController :=
  { home with searches := home.searches ++ [⟨locationInput, completion⟩] }

def filterLocations (locations : List LocationModel) (text : String) : List LocationModel :=
  locations.filter (fun location => containsText location.locationName text)

def filterLocationList (home : HomeViewController) (filterInput : String) :
    Except Trap (HomeViewController × List Output) :=
  if filterInput = "" then home.selectDestination
  else
    let home := { home with
      localLocationList := filterLocations home.localLocationList filterInput }
    if home.localLocationList.length = 0 then
      .ok (home.searchLocationList filterInput .filterLocationList, [])
    else home.reloadData.selectDestination

/-- `searchBar(_:textDidChange:)`, which the edit that made `searchText` the text runs. -/
def textDidChange (home : HomeViewController) (searchText : String) : HomeViewController :=
  let home := { home with searchBarText := searchText }
  if home.searchEditingSemaphor then
    { home with
      searchEditingSemaphor := false
      searchTimers := home.searchTimers + 1 }
  else home

/-- The block of the search timer, with the saved locations it reads. -/
def searchTimerBlock (home : HomeViewController) (saved : List LocationModel) :
    HomeViewController :=
  let home := { home with
    searchEditingSemaphor := true
    localLocationList := saved }
  let home :=
    if home.searchBarText ≠ "" then
      let home := { home with
        localLocationList := filterLocations home.localLocationList home.searchBarText }
      if home.localLocationList.length = 0 then
        home.searchLocationList home.searchBarText .searchBar
      else home
    else { home with localLocationList := saved }
  home.reloadData

/-- The closure of an online search, for the locations that were found. -/
def searchCompletion (home : HomeViewController) (completion : SearchCompletion)
    (returnedlocationList : List LocationModel) :
    Except Trap (HomeViewController × List Output) :=
  let home := { home with localLocationList := returnedlocationList }.reloadData
  match completion with
  | .searchBar => .ok (home, [])
  | .filterLocationList => home.selectDestination

/-- Without a response `searchLocationList` does not call its completion. -/
def searchCompleted (home : HomeViewController) (index : ℕ) (mapItems : Option (List MKMapItem)) :
    Except Trap (HomeViewController × List Output) :=
  match home.searches[index]?, mapItems with
  | some search, some mapItems => do
      let returnedlocationList ← LocationManager.searchResults mapItems
      let home := { home with searches := home.searches.eraseIdx index }
      home.searchCompletion search.completion returnedlocationList
  | _, _ => .ok ({ home with searches := home.searches.eraseIdx index }, [])

def swipeDetected (home : HomeViewController) (direction : SwipeDirection) :
    Except Trap (HomeViewController × List Output) :=
  let isLocalLocation := home.searchBarText.isEmpty
  match direction with
  | .up => do
      let (home, announced) ← home.selectDestination
      let home := { home with locationSelectionCounter := home.locationSelectionCounter - 1 }
      return (home, announced ++ [.scrollToRow home.locationSelectionCounter])
  | .right => home.navigateToVision isLocalLocation
  | .down => do
      let home := { home with locationSelectionCounter := home.locationSelectionCounter + 1 }
      let (home, announced) ← home.selectDestination
      return (home, announced ++ [.scrollToRow home.locationSelectionCounter])
  | .left => .ok (home, [.saveThisLocation])

/-- What can happen on the screen. The saved locations are those in the store at that moment. -/
inductive Event where
  | viewWillAppear (saved : List LocationModel)
  | swipe (direction : SwipeDirection)
  | tap
  | longPress
  | navigateToVision (isLocalLocation : Bool)
  | filterLocationList (filterInput : String)
  | textDidChange (searchText : String)
  | searchTimer (saved : List LocationModel)
  | searchCompleted (index : ℕ) (mapItems : Option (List MKMapItem))
  | tableLayout
  | cellForRowAt (row : ℕ)
deriving DecidableEq, Repr

/-- The table lays out once before it is reloaded, and asks for rows it believes it has. -/
def enabled (home : HomeViewController) : Event → Bool
  | .searchTimer _ => 0 < home.searchTimers
  | .searchCompleted index _ => index < home.searches.length
  | .tableLayout => home.tableRows = none
  | .cellForRowAt row => row < home.tableRows.getD 0
  | _ => true

def handle (home : HomeViewController) : Event → Except Trap (HomeViewController × List Output)
  | .viewWillAppear saved => .ok (home.viewWillAppear saved, [])
  | .swipe direction => home.swipeDetected direction
  | .tap => .ok (home, [.whereAmI])
  | .longPress => .ok (home, [.voiceOutput "Hi I am Listening" .voiceCommandAwakeInteractor])
  | .navigateToVision isLocalLocation => home.navigateToVision isLocalLocation
  | .filterLocationList filterInput => home.filterLocationList filterInput
  | .textDidChange searchText => .ok (home.textDidChange searchText, [])
  | .searchTimer saved =>
      let home := { home with searchTimers := home.searchTimers - 1 }
      .ok (home.searchTimerBlock saved, [])
  | .searchCompleted index mapItems => home.searchCompleted index mapItems
  | .tableLayout => .ok (home.reloadData, [])
  | .cellForRowAt row => do
      let _name ← home.cellForRowAt row
      return (home, [])

def machine : EventMachine.Machine HomeViewController Event Output Trap where
  enabled := enabled
  handle := handle

def opensVision : Event → Bool
  | .swipe .right | .navigateToVision _ => true
  | _ => false

theorem selectDestination_requests {home after : HomeViewController} {requests : List Output}
    (selected : home.selectDestination = .ok (after, requests)) :
    ∃ message, requests = [.voiceOutput message .voiceCommandInfo] := by
  simp only [selectDestination] at selected
  split at selected
  · simp only [Except.ok.injEq, Prod.mk.injEq] at selected
    exact ⟨_, selected.2.symm⟩
  · simp only [bind_eq_ok_iff, pure_eq_ok_iff, Prod.mk.injEq] at selected
    rcases selected with ⟨location, _, _, rfl⟩
    exact ⟨_, rfl⟩

theorem navigateToVision_requests {home after : HomeViewController} {isLocalLocation : Bool}
    {requests : List Output}
    (navigated : home.navigateToVision isLocalLocation = .ok (after, requests)) :
    after = home ∧ requests = [.performSegue "VisionIdentifier"] := by
  simp only [navigateToVision, bind_eq_ok_iff, pure_eq_ok_iff, Prod.mk.injEq] at navigated
  rcases navigated with ⟨_, _, rfl, rfl⟩
  exact ⟨rfl, rfl⟩

theorem filterLocationList_requests {home after : HomeViewController} {filterInput : String}
    {requests : List Output}
    (filtered : home.filterLocationList filterInput = .ok (after, requests)) :
    requests = [] ∨ ∃ message, requests = [.voiceOutput message .voiceCommandInfo] := by
  simp only [filterLocationList] at filtered
  split at filtered
  · exact Or.inr (selectDestination_requests filtered)
  · split at filtered
    · simp only [Except.ok.injEq, Prod.mk.injEq] at filtered
      exact Or.inl filtered.2.symm
    · exact Or.inr (selectDestination_requests filtered)

theorem searchCompleted_requests {home after : HomeViewController} {index : ℕ}
    {mapItems : Option (List MKMapItem)} {requests : List Output}
    (completed : home.searchCompleted index mapItems = .ok (after, requests)) :
    requests = [] ∨ ∃ message, requests = [.voiceOutput message .voiceCommandInfo] := by
  simp only [searchCompleted] at completed
  split at completed
  · rename_i search _ _
    simp only [bind_eq_ok_iff] at completed
    rcases completed with ⟨found, _, completed⟩
    cases completion : search.completion with
    | searchBar =>
        simp only [searchCompletion, completion, Except.ok.injEq, Prod.mk.injEq] at completed
        exact Or.inl completed.2.symm
    | filterLocationList =>
        simp only [searchCompletion, completion] at completed
        exact Or.inr (selectDestination_requests completed)
  · simp only [Except.ok.injEq, Prod.mk.injEq] at completed
    exact Or.inl completed.2.symm

theorem handle_requests {home after : HomeViewController} {event : Event}
    {requests : List Output} (handled : home.handle event = .ok (after, requests)) :
    if opensVision event then requests = [.performSegue "VisionIdentifier"]
    else ∀ identifier, .performSegue identifier ∉ requests := by
  cases event with
  | viewWillAppear saved =>
      simp only [handle, Except.ok.injEq, Prod.mk.injEq] at handled
      simp [opensVision, ← handled.2]
  | swipe direction =>
      cases direction with
      | up =>
          simp only [handle, swipeDetected, bind_eq_ok_iff, pure_eq_ok_iff, Prod.mk.injEq,
            Prod.exists] at handled
          rcases handled with ⟨middle, announced, selected, _, rfl⟩
          rcases selectDestination_requests selected with ⟨message, rfl⟩
          simp [opensVision]
      | down =>
          simp only [handle, swipeDetected, bind_eq_ok_iff, pure_eq_ok_iff, Prod.mk.injEq,
            Prod.exists] at handled
          rcases handled with ⟨middle, announced, selected, _, rfl⟩
          rcases selectDestination_requests selected with ⟨message, rfl⟩
          simp [opensVision]
      | left =>
          simp only [handle, swipeDetected, Except.ok.injEq, Prod.mk.injEq] at handled
          simp [opensVision, ← handled.2]
      | right => exact (navigateToVision_requests handled).2
  | tap =>
      simp only [handle, Except.ok.injEq, Prod.mk.injEq] at handled
      simp [opensVision, ← handled.2]
  | longPress =>
      simp only [handle, Except.ok.injEq, Prod.mk.injEq] at handled
      simp [opensVision, ← handled.2]
  | navigateToVision isLocalLocation => exact (navigateToVision_requests handled).2
  | filterLocationList filterInput =>
      rcases filterLocationList_requests handled with rfl | ⟨message, rfl⟩
      · simp [opensVision]
      · simp [opensVision]
  | textDidChange searchText =>
      simp only [handle, Except.ok.injEq, Prod.mk.injEq] at handled
      simp [opensVision, ← handled.2]
  | searchTimer saved =>
      simp only [handle, Except.ok.injEq, Prod.mk.injEq] at handled
      simp [opensVision, ← handled.2]
  | searchCompleted index mapItems =>
      rcases searchCompleted_requests handled with rfl | ⟨message, rfl⟩
      · simp [opensVision]
      · simp [opensVision]
  | tableLayout =>
      simp only [handle, Except.ok.injEq, Prod.mk.injEq] at handled
      simp [opensVision, ← handled.2]
  | cellForRowAt row =>
      simp only [handle, bind_eq_ok_iff, pure_eq_ok_iff, Prod.mk.injEq] at handled
      rcases handled with ⟨_, _, _, rfl⟩
      simp [opensVision]

theorem textDidChange_eq (home : HomeViewController) (searchText : String) :
    home.textDidChange searchText =
      { home with
        searchBarText := searchText
        searchEditingSemaphor := false
        searchTimers := home.searchTimers + if home.searchEditingSemaphor then 1 else 0 } := by
  cases isOpen : home.searchEditingSemaphor with
  | true => simp [textDidChange, isOpen]
  | false => simp [textDidChange, isOpen]

theorem selectDestination_frame {home after : HomeViewController} {requests : List Output}
    (selected : home.selectDestination = .ok (after, requests)) :
    ∃ counter, after = { home with locationSelectionCounter := counter } := by
  simp only [selectDestination] at selected
  split at selected
  · simp only [Except.ok.injEq, Prod.mk.injEq] at selected
    exact ⟨0, selected.1.symm⟩
  · simp only [bind_eq_ok_iff, pure_eq_ok_iff, Prod.mk.injEq] at selected
    rcases selected with ⟨_, _, rfl, _⟩
    exact ⟨_, rfl⟩

/-- What handling an event without a fault leads to. The counter is not followed. -/
inductive Reaction (before : HomeViewController) : Event → HomeViewController → Prop where
  | viewWillAppear (saved : List LocationModel) :
      Reaction before (.viewWillAppear saved) (before.viewWillAppear saved)
  | swipe (direction : SwipeDirection) (counter : ℤ) :
      Reaction before (.swipe direction) { before with locationSelectionCounter := counter }
  | tap : Reaction before .tap before
  | longPress : Reaction before .longPress before
  | navigateToVision (isLocalLocation : Bool) :
      Reaction before (.navigateToVision isLocalLocation) before
  | nothingSaid (counter : ℤ) :
      Reaction before (.filterLocationList "")
        { before with locationSelectionCounter := counter }
  | filtered {filterInput : String} (counter : ℤ) (isSaid : filterInput ≠ "")
      (found : filterLocations before.localLocationList filterInput ≠ []) :
      Reaction before (.filterLocationList filterInput)
        { before with
          localLocationList := filterLocations before.localLocationList filterInput
          tableRows := some (filterLocations before.localLocationList filterInput).length
          locationSelectionCounter := counter }
  | notFound {filterInput : String} (isSaid : filterInput ≠ "")
      (nothingFound : filterLocations before.localLocationList filterInput = []) :
      Reaction before (.filterLocationList filterInput)
        { before with
          localLocationList := []
          searches := before.searches ++ [⟨filterInput, .filterLocationList⟩] }
  | textDidChange (searchText : String) :
      Reaction before (.textDidChange searchText) (before.textDidChange searchText)
  | searchTimer (saved : List LocationModel) :
      Reaction before (.searchTimer saved)
        (({ before with searchTimers := before.searchTimers - 1 }).searchTimerBlock saved)
  | answered {index : ℕ} {mapItems : List MKMapItem} {search : MKLocalSearch}
      {returnedlocationList : List LocationModel} (counter : ℤ)
      (outstanding : before.searches[index]? = some search)
      (converted : LocationManager.searchResults mapItems = .ok returnedlocationList) :
      Reaction before (.searchCompleted index (some mapItems))
        { before with
          searches := before.searches.eraseIdx index
          localLocationList := returnedlocationList
          tableRows := some returnedlocationList.length
          locationSelectionCounter := counter }
  | unanswered {index : ℕ} {mapItems : Option (List MKMapItem)}
      (nothing : before.searches[index]? = none ∨ mapItems = none) :
      Reaction before (.searchCompleted index mapItems)
        { before with searches := before.searches.eraseIdx index }
  | tableLayout : Reaction before .tableLayout before.reloadData
  | cellForRowAt {row : ℕ} (inRange : InRange row before.localLocationList) :
      Reaction before (.cellForRowAt row) before

theorem reaction_filterLocationList {before after : HomeViewController} {filterInput : String}
    {requests : List Output}
    (filtered : before.filterLocationList filterInput = .ok (after, requests)) :
    Reaction before (.filterLocationList filterInput) after := by
  simp only [filterLocationList] at filtered
  split at filtered
  · rename_i nothingSaid
    rcases selectDestination_frame filtered with ⟨counter, rfl⟩
    subst nothingSaid
    exact .nothingSaid counter
  · rename_i isSaid
    split at filtered
    · rename_i nothingFound
      have isEmpty := List.eq_nil_of_length_eq_zero nothingFound
      simp only [searchLocationList, isEmpty, Except.ok.injEq, Prod.mk.injEq] at filtered
      rcases filtered with ⟨rfl, _⟩
      exact .notFound isSaid isEmpty
    · rename_i found
      rcases selectDestination_frame filtered with ⟨counter, rfl⟩
      apply Reaction.filtered counter isSaid
      intro isEmpty
      apply found
      simp only [isEmpty, List.length_nil]

theorem reaction_searchCompleted {before after : HomeViewController} {index : ℕ}
    {mapItems : Option (List MKMapItem)} {requests : List Output}
    (completed : before.searchCompleted index mapItems = .ok (after, requests)) :
    Reaction before (.searchCompleted index mapItems) after := by
  simp only [searchCompleted] at completed
  split at completed
  · rename_i search mapItems outstanding
    simp only [bind_eq_ok_iff] at completed
    rcases completed with ⟨returnedlocationList, converted, completed⟩
    cases completion : search.completion with
    | searchBar =>
        simp only [searchCompletion, completion, Except.ok.injEq, Prod.mk.injEq] at completed
        rcases completed with ⟨rfl, _⟩
        exact .answered _ outstanding converted
    | filterLocationList =>
        simp only [searchCompletion, completion] at completed
        rcases selectDestination_frame completed with ⟨counter, rfl⟩
        exact .answered counter outstanding converted
  · rename_i nothing
    simp only [Except.ok.injEq, Prod.mk.injEq] at completed
    rcases completed with ⟨rfl, _⟩
    apply Reaction.unanswered
    by_contra something
    push Not at something
    rcases Option.ne_none_iff_exists'.mp something.1 with ⟨search, outstanding⟩
    rcases Option.ne_none_iff_exists'.mp something.2 with ⟨found, answer⟩
    exact nothing search found outstanding answer

theorem reaction_of_handle {before after : HomeViewController} {event : Event}
    {requests : List Output} (handled : before.handle event = .ok (after, requests)) :
    Reaction before event after := by
  cases event with
  | swipe direction =>
      cases direction with
      | up =>
          simp only [handle, swipeDetected, bind_eq_ok_iff, pure_eq_ok_iff, Prod.mk.injEq,
            Prod.exists] at handled
          rcases handled with ⟨middle, announced, selected, rfl, _⟩
          rcases selectDestination_frame selected with ⟨counter, rfl⟩
          exact .swipe .up _
      | down =>
          simp only [handle, swipeDetected, bind_eq_ok_iff, pure_eq_ok_iff, Prod.mk.injEq,
            Prod.exists] at handled
          rcases handled with ⟨middle, announced, selected, rfl, _⟩
          rcases selectDestination_frame selected with ⟨counter, rfl⟩
          exact .swipe .down counter
      | left =>
          simp only [handle, swipeDetected, Except.ok.injEq, Prod.mk.injEq] at handled
          rcases handled with ⟨rfl, _⟩
          exact .swipe .left _
      | right =>
          rcases navigateToVision_requests handled with ⟨rfl, _⟩
          exact .swipe .right _
  | navigateToVision isLocalLocation =>
      rcases navigateToVision_requests handled with ⟨rfl, _⟩
      exact .navigateToVision isLocalLocation
  | filterLocationList filterInput => exact reaction_filterLocationList handled
  | searchCompleted index mapItems => exact reaction_searchCompleted handled
  | cellForRowAt row =>
      simp only [handle, cellForRowAt, bind_eq_ok_iff, pure_eq_ok_iff, Prod.mk.injEq] at handled
      rcases handled with ⟨_, ⟨location, found, _⟩, rfl, _⟩
      apply Reaction.cellForRowAt
      by_contra outside
      rw [subscript_eq_error_iff.mpr outside] at found
      simp at found
  | viewWillAppear saved =>
      simp only [handle, Except.ok.injEq, Prod.mk.injEq] at handled
      rcases handled with ⟨rfl, _⟩
      exact .viewWillAppear saved
  | tap =>
      simp only [handle, Except.ok.injEq, Prod.mk.injEq] at handled
      rcases handled with ⟨rfl, _⟩
      exact .tap
  | longPress =>
      simp only [handle, Except.ok.injEq, Prod.mk.injEq] at handled
      rcases handled with ⟨rfl, _⟩
      exact .longPress
  | textDidChange searchText =>
      simp only [handle, Except.ok.injEq, Prod.mk.injEq] at handled
      rcases handled with ⟨rfl, _⟩
      exact .textDidChange searchText
  | searchTimer saved =>
      simp only [handle, Except.ok.injEq, Prod.mk.injEq] at handled
      rcases handled with ⟨rfl, _⟩
      exact .searchTimer saved
  | tableLayout =>
      simp only [handle, Except.ok.injEq, Prod.mk.injEq] at handled
      rcases handled with ⟨rfl, _⟩
      exact .tableLayout

/-- Only a search that is outstanding completes, so one without an answer has failed. -/
theorem failed_of_unanswered {home : HomeViewController} {index : ℕ}
    {mapItems : Option (List MKMapItem)}
    (isEnabled : home.enabled (.searchCompleted index mapItems) = true)
    (nothing : home.searches[index]? = none ∨ mapItems = none) : mapItems = none := by
  have isOutstanding : index < home.searches.length := of_decide_eq_true isEnabled
  rcases nothing with outside | failed
  · rw [List.getElem?_eq_none_iff] at outside
    omega
  · exact failed

end HomeViewController

end VisionApp
