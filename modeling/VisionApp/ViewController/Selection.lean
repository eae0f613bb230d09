import VisionApp.ViewController.HomeViewController

/-!
# The selected row

`locationSelectionCounter` should point into `localLocationList` whenever there
is something to point to. `selectDestination` restores this, but it is not
always the last thing a handler does: swipe up moves the counter after the check,
and reloads put another list under it.
-/

namespace VisionApp.HomeViewController

open EventMachine EventMachine.Machine

/-- The counter points into the list, unless the list is empty. -/
def ValidSelection (counter : ℤ) (locations : List LocationModel) : Prop :=
  locations ≠ [] → InRange counter locations

instance (counter : ℤ) (locations : List LocationModel) :
    Decidable (ValidSelection counter locations) :=
  inferInstanceAs (Decidable (_ → _))

/-- The step leaves a valid selection, scrolls to existing rows only, and subscripts nothing out of
range. -/
def SelectionLaw (before : HomeViewController) (event : Event) : Prop :=
  match before.handle event with
  | .ok (after, requests) =>
      ValidSelection after.locationSelectionCounter after.localLocationList ∧
        ∀ row, .scrollToRow row ∈ requests → InRange row after.localLocationList
  | .error trap => trap ≠ .indexOutOfRange

/-- The list that the search timer puts on the screen. -/
def searchedLocations (home : HomeViewController) (saved : List LocationModel) :
    List LocationModel :=
  if home.searchBarText ≠ "" then filterLocations saved home.searchBarText else saved

/-- A swipe moves to a row that exists, navigation has a row to take the destination from, and a
new list is empty or reaches as far as the counter. -/
def SelectionCondition (before : HomeViewController) : Event → Prop
  | .swipe .up => before.localLocationList ≠ [] ∧ 1 ≤ before.locationSelectionCounter
  | .swipe .down => before.localLocationList ≠ []
  | .swipe .right => before.searchBarText.isEmpty = false → before.localLocationList ≠ []
  | .navigateToVision isLocalLocation => isLocalLocation = false → before.localLocationList ≠ []
  | .viewWillAppear saved => ValidSelection before.locationSelectionCounter saved
  | .searchTimer saved =>
      ValidSelection before.locationSelectionCounter (before.searchedLocations saved)
  | .searchCompleted index mapItems =>
      ∀ naturalLanguageQuery, before.searches[index]? = some ⟨naturalLanguageQuery, .searchBar⟩ →
        ∀ found, mapItems.map LocationManager.searchResults = some (.ok found) →
          ValidSelection before.locationSelectionCounter found
  | .cellForRowAt row => row < before.localLocationList.length
  | _ => True

theorem ValidSelection.inRange {counter : ℤ} {locations : List LocationModel}
    (valid : ValidSelection counter locations) : InRange counter locations ↔ locations ≠ [] := by
  constructor
  · rintro ⟨_, _⟩ rfl
    simp at *
    omega
  · exact valid

theorem selectionLaw_of_ok {before after : HomeViewController} {event : Event}
    {requests : List Output} (handled : before.handle event = .ok (after, requests)) :
    SelectionLaw before event ↔
      ValidSelection after.locationSelectionCounter after.localLocationList ∧
        ∀ row, .scrollToRow row ∈ requests → InRange row after.localLocationList := by
  simp only [SelectionLaw, handled]

theorem selectionLaw_of_error {before : HomeViewController} {event : Event} {trap : Trap}
    (handled : before.handle event = .error trap) :
    SelectionLaw before event ↔ trap ≠ .indexOutOfRange := by
  simp only [SelectionLaw, handled]

def selected (counter : ℤ) (locations : List LocationModel) : ℤ :=
  if InRange counter locations then counter else 0

theorem validSelection_selected (counter : ℤ) (locations : List LocationModel) :
    ValidSelection (selected counter locations) locations := by
  intro notEmpty
  have positive := List.length_pos_iff.mpr notEmpty
  simp only [selected]
  split
  · assumption
  · simp only [InRange]
    omega

theorem selectDestination_eq (home : HomeViewController) :
    ∃ message, home.selectDestination =
      .ok
        ({ home with
          locationSelectionCounter :=
            selected home.locationSelectionCounter home.localLocationList },
        [.voiceOutput message .voiceCommandInfo]) := by
  simp only [selectDestination, selected]
  split
  · rename_i outside
    refine ⟨"No more location available", ?_⟩
    rw [if_neg]
    simp only [InRange]
    omega
  · rename_i inside
    have inRange : InRange home.locationSelectionCounter home.localLocationList := by
      simp only [InRange]
      omega
    rcases subscript_of_inRange inRange with ⟨location, found⟩
    rw [found, if_pos inRange]
    exact ⟨location.locationName, rfl⟩

theorem navigateToVision_of_ok {home : HomeViewController} {isLocalLocation : Bool}
    (available : isLocalLocation = false →
      InRange home.locationSelectionCounter home.localLocationList) :
    home.navigateToVision isLocalLocation = .ok (home, [.performSegue "VisionIdentifier"]) := by
  cases isLocalLocation with
  | true => rfl
  | false =>
      rcases subscript_of_inRange (available rfl) with ⟨location, found⟩
      simp only [navigateToVision, visionViewController, found]
      rfl

theorem navigateToVision_of_error {home : HomeViewController}
    (outside : ¬InRange home.locationSelectionCounter home.localLocationList) :
    home.navigateToVision false = .error .indexOutOfRange := by
  simp only [navigateToVision, visionViewController, subscript_eq_error_iff.mpr outside]
  rfl

theorem searchResults_ne_indexOutOfRange (mapItems : List MKMapItem) :
    LocationManager.searchResults mapItems ≠ .error .indexOutOfRange := by
  apply mapM_ne_error
  intro mapItem
  simp only [LocationManager.searchResult]
  split <;> simp

theorem searchTimerBlock_eq (home : HomeViewController) (saved : List LocationModel) :
    home.searchTimerBlock saved =
      { home with
        searchEditingSemaphor := true
        localLocationList := home.searchedLocations saved
        searches := home.searches ++
          if home.searchBarText ≠ "" ∧ home.searchedLocations saved = [] then
            [⟨home.searchBarText, .searchBar⟩]
          else []
        tableRows := some (home.searchedLocations saved).length } := by
  simp only [searchTimerBlock, searchedLocations, List.length_eq_zero_iff]
  by_cases isEmpty : home.searchBarText = ""
  · simp [isEmpty, reloadData, numberOfRowsInSection]
  · by_cases nothingFound : filterLocations saved home.searchBarText = []
    · simp [isEmpty, nothingFound, searchLocationList, reloadData, numberOfRowsInSection]
    · simp [isEmpty, nothingFound, reloadData, numberOfRowsInSection]

section Steps

variable {before : HomeViewController}

theorem selectionLaw_up
    (valid : ValidSelection before.locationSelectionCounter before.localLocationList) :
    SelectionLaw before (.swipe .up) ↔
      before.localLocationList ≠ [] ∧ 1 ≤ before.locationSelectionCounter := by
  rcases selectDestination_eq before with ⟨message, announced⟩
  have handled : before.handle (.swipe .up) =
      .ok
        ({ before with
          locationSelectionCounter :=
            selected before.locationSelectionCounter before.localLocationList - 1 },
        [.voiceOutput message .voiceCommandInfo, .scrollToRow
          (selected before.locationSelectionCounter before.localLocationList - 1)]) := by
    simp only [handle, swipeDetected, announced]
    rfl
  rw [selectionLaw_of_ok handled]
  constructor
  · rintro ⟨_, scrolls⟩
    have inRange := scrolls _ (List.mem_cons_of_mem _ List.mem_cons_self)
    have notEmpty : before.localLocationList ≠ [] := by
      rintro isEmpty
      simp only [InRange, isEmpty, List.length_nil] at inRange
      omega
    refine ⟨notEmpty, ?_⟩
    simp only [selected, if_pos (valid notEmpty)] at inRange
    have lower := inRange.1
    omega
  · rintro ⟨notEmpty, positive⟩
    have inRange := valid notEmpty
    have above : InRange (before.locationSelectionCounter - 1) before.localLocationList := by
      simp only [InRange] at inRange ⊢
      omega
    simp only [selected, if_pos inRange]
    refine ⟨fun _ => above, ?_⟩
    intro row scrolled
    simp only [List.mem_cons, reduceCtorEq, Output.scrollToRow.injEq, List.not_mem_nil,
      or_false, false_or] at scrolled
    rw [scrolled]
    exact above

theorem selectionLaw_down :
    SelectionLaw before (.swipe .down) ↔ before.localLocationList ≠ [] := by
  rcases selectDestination_eq
    { before with locationSelectionCounter := before.locationSelectionCounter + 1 } with
    ⟨message, announced⟩
  have handled : before.handle (.swipe .down) =
      .ok
        ({ before with
          locationSelectionCounter :=
            selected (before.locationSelectionCounter + 1) before.localLocationList },
        [.voiceOutput message .voiceCommandInfo, .scrollToRow
          (selected (before.locationSelectionCounter + 1) before.localLocationList)]) := by
    simp only [handle, swipeDetected, announced]
    rfl
  have valid :=
    validSelection_selected (before.locationSelectionCounter + 1) before.localLocationList
  rw [selectionLaw_of_ok handled]
  constructor
  · rintro ⟨_, scrolls⟩
    exact valid.inRange.mp (scrolls _ (List.mem_cons_of_mem _ List.mem_cons_self))
  · intro notEmpty
    refine ⟨valid, ?_⟩
    intro row scrolled
    simp only [List.mem_cons, reduceCtorEq, Output.scrollToRow.injEq, List.not_mem_nil,
      or_false, false_or] at scrolled
    rw [scrolled]
    exact valid notEmpty

theorem selectionLaw_navigateToVision {event : Event} {isLocalLocation : Bool}
    (navigates : before.handle event = before.navigateToVision isLocalLocation)
    (valid : ValidSelection before.locationSelectionCounter before.localLocationList) :
    SelectionLaw before event ↔
      (isLocalLocation = false → before.localLocationList ≠ []) := by
  by_cases available : isLocalLocation = false →
    InRange before.locationSelectionCounter before.localLocationList
  · rw [selectionLaw_of_ok (navigates.trans (navigateToVision_of_ok available))]
    constructor
    · intro _ toLocation
      exact valid.inRange.mp (available toLocation)
    · intro _
      exact ⟨valid, by simp⟩
  · push Not at available
    rcases available with ⟨rfl, outside⟩
    rw [selectionLaw_of_error (navigates.trans (navigateToVision_of_error outside))]
    constructor
    · intro impossible
      exact absurd rfl impossible
    · intro notEmpty
      exact absurd (valid (notEmpty rfl)) outside

theorem selectionLaw_selectDestination {event : Event} {middle : HomeViewController}
    (selects : before.handle event = middle.selectDestination) : SelectionLaw before event := by
  rcases selectDestination_eq middle with ⟨message, announced⟩
  rw [selectionLaw_of_ok (selects.trans announced)]
  exact ⟨validSelection_selected _ _, by simp⟩

theorem selectionLaw_filterLocationList (filterInput : String) :
    SelectionLaw before (.filterLocationList filterInput) := by
  by_cases nothingSaid : filterInput = ""
  · have handled : before.handle (.filterLocationList filterInput) = before.selectDestination := by
      simp only [handle, filterLocationList, if_pos nothingSaid]
    exact selectionLaw_selectDestination handled
  · by_cases nothingFound : (filterLocations before.localLocationList filterInput).length = 0
    · have isEmpty := List.eq_nil_of_length_eq_zero nothingFound
      have handled : before.handle (.filterLocationList filterInput) =
          .ok (({ before with localLocationList := [] }).searchLocationList filterInput
            .filterLocationList, []) := by
        simp only [handle, filterLocationList, if_neg nothingSaid, isEmpty, List.length_nil,
          if_true]
      rw [selectionLaw_of_ok handled]
      simp [searchLocationList, ValidSelection]
    · have handled : before.handle (.filterLocationList filterInput) =
          ({ before with
            localLocationList := filterLocations before.localLocationList filterInput
            }).reloadData.selectDestination := by
        simp only [handle, filterLocationList, if_neg nothingSaid, if_neg nothingFound]
      exact selectionLaw_selectDestination handled

theorem selectionLaw_searchCompleted (index : ℕ) (mapItems : Option (List MKMapItem))
    (valid : ValidSelection before.locationSelectionCounter before.localLocationList) :
    SelectionLaw before (.searchCompleted index mapItems) ↔
      SelectionCondition before (.searchCompleted index mapItems) := by
  cases started : before.searches[index]? with
  | none =>
      have handled : before.handle (.searchCompleted index mapItems) =
          .ok ({ before with searches := before.searches.eraseIdx index }, []) := by
        simp only [handle, searchCompleted, started]
      rw [selectionLaw_of_ok handled]
      simpa [SelectionCondition, started] using valid
  | some search =>
      cases mapItems with
      | none =>
          have handled : before.handle (.searchCompleted index none) =
              .ok ({ before with searches := before.searches.eraseIdx index }, []) := by
            simp only [handle, searchCompleted, started]
          rw [selectionLaw_of_ok handled]
          simpa [SelectionCondition] using valid
      | some mapItems =>
          cases converted : LocationManager.searchResults mapItems with
          | error trap =>
              have handled : before.handle (.searchCompleted index (some mapItems)) =
                  .error trap := by
                simp only [handle, searchCompleted, started, converted]
                rfl
              have never := searchResults_ne_indexOutOfRange mapItems
              rw [converted] at never
              rw [selectionLaw_of_error handled]
              simpa [SelectionCondition, converted] using never
          | ok found =>
              rcases search with ⟨naturalLanguageQuery, completion⟩
              have handled : before.handle (.searchCompleted index (some mapItems)) =
                  ({ before with searches := before.searches.eraseIdx index }).searchCompletion
                    completion found := by
                simp only [handle, searchCompleted, started, converted]
                rfl
              cases completion with
              | filterLocationList =>
                  simpa [SelectionCondition, started] using
                    selectionLaw_selectDestination handled
              | searchBar =>
                  rw [selectionLaw_of_ok handled]
                  simp [SelectionCondition, started, converted, reloadData]

theorem selectionLaw_cellForRowAt (row : ℕ)
    (valid : ValidSelection before.locationSelectionCounter before.localLocationList) :
    SelectionLaw before (.cellForRowAt row) ↔ row < before.localLocationList.length := by
  by_cases inRange : InRange row before.localLocationList
  · rcases subscript_of_inRange inRange with ⟨location, found⟩
    have handled : before.handle (.cellForRowAt row) = .ok (before, []) := by
      simp only [handle, cellForRowAt, found]
      rfl
    rw [selectionLaw_of_ok handled]
    have bound := inRange.2
    simp only [List.not_mem_nil, false_implies, implies_true, and_true]
    constructor
    · intro _
      omega
    · intro _
      exact valid
  · have handled : before.handle (.cellForRowAt row) = .error .indexOutOfRange := by
      simp only [handle, cellForRowAt, subscript_eq_error_iff.mpr inRange]
      rfl
    rw [selectionLaw_of_error handled]
    simp only [InRange] at inRange
    simp only [ne_eq, not_true_eq_false, false_iff]
    omega

theorem selectionLaw_iff (event : Event)
    (valid : ValidSelection before.locationSelectionCounter before.localLocationList) :
    SelectionLaw before event ↔ SelectionCondition before event := by
  cases event with
  | swipe direction =>
      cases direction with
      | up => exact selectionLaw_up valid
      | down => exact selectionLaw_down
      | right => exact selectionLaw_navigateToVision rfl valid
      | left =>
          rw [selectionLaw_of_ok rfl]
          simp [SelectionCondition, valid]
  | navigateToVision isLocalLocation => exact selectionLaw_navigateToVision rfl valid
  | filterLocationList filterInput =>
      simp [SelectionCondition, selectionLaw_filterLocationList filterInput]
  | searchCompleted index mapItems => exact selectionLaw_searchCompleted index mapItems valid
  | viewWillAppear saved =>
      rw [selectionLaw_of_ok rfl]
      simp [SelectionCondition, viewWillAppear]
  | searchTimer saved =>
      rw [selectionLaw_of_ok rfl]
      simp [SelectionCondition, searchTimerBlock_eq, searchedLocations]
  | cellForRowAt row => exact selectionLaw_cellForRowAt row valid
  | textDidChange searchText =>
      rw [selectionLaw_of_ok rfl]
      simp [SelectionCondition, textDidChange_eq, valid]
  | tap =>
      rw [selectionLaw_of_ok rfl]
      simp [SelectionCondition, valid]
  | longPress =>
      rw [selectionLaw_of_ok rfl]
      simp [SelectionCondition, valid]
  | tableLayout =>
      rw [selectionLaw_of_ok rfl]
      simp [SelectionCondition, valid, reloadData]

end Steps

/-- The selection stays valid throughout a run of the screen exactly when every step meets the
condition. -/
theorem selection_iff_condition (events : List Event) :
    machine.Always SelectionLaw {} events ↔ machine.Always SelectionCondition {} events := by
  have kept : ∀ before event after outputs,
      ValidSelection before.locationSelectionCounter before.localLocationList →
        SelectionLaw before event → machine.Step before event after outputs →
          ValidSelection after.locationSelectionCounter after.localLocationList := by
    intro before event after outputs _ law step
    exact ((selectionLaw_of_ok step.2).mp law).1
  apply Always.iff_of_kept kept
  · intro before event valid _
    exact selectionLaw_iff event valid
  · exact fun notEmpty => absurd rfl notEmpty

def swipeUpAtTop : List Event :=
  [.viewWillAppear [{ locationName := "Lobby" }], .swipe .up]

/-- The table is asked to scroll to row -1, and the counter stays there. -/
theorem swipeUpAtTop_outside :
    (∃ before after, machine.Run {} (swipeUpAtTop.take 1) before ∧
      machine.Step before (.swipe .up) after
        [.voiceOutput "Lobby" .voiceCommandInfo, .scrollToRow (-1)] ∧
      after.locationSelectionCounter = -1) ∧
      ¬machine.Always SelectionLaw {} swipeUpAtTop :=
  ⟨⟨_, _, .of_exec rfl, ⟨rfl, rfl⟩, rfl⟩,
    Always.not_of_exec (swipeUpAtTop.take 1) [] rfl rfl (by
      rw [selectionLaw_up (by decide)]
      decide)⟩

end VisionApp.HomeViewController
