import VisionApp.EventMachine.History
import VisionApp.ViewController.Selection

/-!
# Two local searches

The search bar filters the saved locations. The voice command filters whatever
the list holds: the saved locations, or what an online search found, already
narrowed by the queries since. A history variable keeps the list that was loaded
last and these queries, and tells when the two searches find the same.
-/

namespace VisionApp.HomeViewController

open EventMachine EventMachine.Machine

/-- The list that was put on the screen last, and the queries that narrowed it since. -/
structure ListHistory where
  loaded : List LocationModel := []
  queries : List String := []
deriving DecidableEq, Repr

def ListHistory.observe (history : ListHistory) (before : HomeViewController) :
    Event → ListHistory
  | .viewWillAppear saved => { loaded := saved }
  | .searchTimer saved =>
      { loaded := saved
        queries := if before.searchBarText ≠ "" then [before.searchBarText] else [] }
  | .filterLocationList filterInput =>
      if filterInput = "" then history
      else { history with queries := history.queries ++ [filterInput] }
  | .searchCompleted _ mapItems =>
      match mapItems.map LocationManager.searchResults with
      | some (.ok returnedlocationList) => { loaded := returnedlocationList }
      | _ => history
  | _ => history

def listMachine :=
  machine.observed (fun history before event _ _ => ListHistory.observe history before event)

def matchesAll (queries : List String) (location : LocationModel) : Bool :=
  queries.all (fun query => containsText location.locationName query)

/-- The voice command leaves the list that the search bar's timer would leave for the same text,
the saved locations whose name contains it, and the two start an online search in the same case. -/
def AgreesWithSearchBar (home : HomeViewController) (query : String)
    (saved : List LocationModel) : Prop :=
  ∃ after requests, home.handle (.filterLocationList query) = .ok (after, requests) ∧
    after.localLocationList =
      (({ home with searchBarText := query }).searchTimerBlock saved).localLocationList ∧
    after.localLocationList = filterLocations saved query ∧
    after.searches.length =
      (({ home with searchBarText := query }).searchTimerBlock saved).searches.length

/-- Of the list loaded last, the locations that match the query and all those since are the saved
ones that match the query. -/
def LoadedMatches (history : ListHistory) (query : String) (saved : List LocationModel) : Prop :=
  history.loaded.filter (matchesAll (history.queries ++ [query])) = filterLocations saved query

theorem matchesAll_snoc (queries : List String) (query : String) (location : LocationModel) :
    matchesAll (queries ++ [query]) location =
      (matchesAll queries location && containsText location.locationName query) := by
  simp [matchesAll]

theorem filterLocations_filter (loaded : List LocationModel) (queries : List String)
    (query : String) :
    filterLocations (loaded.filter (matchesAll queries)) query =
      loaded.filter (matchesAll (queries ++ [query])) := by
  rw [filterLocations, List.filter_filter]
  apply List.filter_congr
  intro location _
  rw [matchesAll_snoc, Bool.and_comm]

theorem filter_matchesAll_nil (loaded : List LocationModel) :
    loaded.filter (matchesAll []) = loaded := by
  simp [matchesAll]

/-- The list is the one loaded last, narrowed by the queries since. -/
def Narrowed (state : HomeViewController × ListHistory) : Prop :=
  state.1.localLocationList = state.2.loaded.filter (matchesAll state.2.queries)

theorem narrowed_of_reaction {before after : HomeViewController} {history : ListHistory}
    {event : Event} (narrowed : Narrowed (before, history))
    (isEnabled : before.enabled event = true) (reaction : Reaction before event after) :
    Narrowed (after, history.observe before event) := by
  have narrow : ∀ query, filterLocations before.localLocationList query =
      history.loaded.filter (matchesAll (history.queries ++ [query])) := by
    intro query
    rw [← filterLocations_filter, ← narrowed]
  cases reaction with
  | viewWillAppear saved => exact (filter_matchesAll_nil saved).symm
  | searchTimer saved =>
      rw [searchTimerBlock_eq]
      simp only [Narrowed, ListHistory.observe, searchedLocations]
      split
      · rw [← List.nil_append [before.searchBarText], ← filterLocations_filter,
          filter_matchesAll_nil]
      · exact (filter_matchesAll_nil saved).symm
  | @filtered filterInput counter isSaid found =>
      simp only [Narrowed, ListHistory.observe, if_neg isSaid]
      exact narrow filterInput
  | @notFound filterInput isSaid nothingFound =>
      simp only [Narrowed, ListHistory.observe, if_neg isSaid]
      rw [← narrow filterInput, nothingFound]
  | @answered index mapItems search found counter outstanding converted =>
      simp only [Narrowed, ListHistory.observe, Option.map_some, converted]
      exact (filter_matchesAll_nil found).symm
  | @unanswered index mapItems nothing =>
      rcases failed_of_unanswered isEnabled nothing with rfl
      exact narrowed
  | textDidChange searchText =>
      rw [textDidChange_eq]
      exact narrowed
  | nothingSaid counter => exact narrowed
  | swipe direction counter => exact narrowed
  | tap => exact narrowed
  | longPress => exact narrowed
  | navigateToVision isLocalLocation => exact narrowed
  | tableLayout => exact narrowed
  | cellForRowAt inRange => exact narrowed

theorem narrowed_preserved : listMachine.Preserved Narrowed := by
  apply observed_preserved
  intro before history event after outputs narrowed step
  exact narrowed_of_reaction narrowed step.1 (reaction_of_handle step.2)

/-- What the voice command does with a query before any online answer. -/
theorem filterLocationList_stage (home : HomeViewController) {query : String}
    (isSaid : query ≠ "") :
    ∃ after requests, home.handle (.filterLocationList query) = .ok (after, requests) ∧
      after.localLocationList = filterLocations home.localLocationList query ∧
      after.searches.length = home.searches.length +
        if filterLocations home.localLocationList query = [] then 1 else 0 := by
  simp only [handle, filterLocationList, if_neg isSaid, List.length_eq_zero_iff]
  split
  · refine ⟨_, _, rfl, rfl, ?_⟩
    simp [searchLocationList]
  · rcases selectDestination_eq ({ home with
      localLocationList := filterLocations home.localLocationList query }).reloadData with
      ⟨message, selects⟩
    rw [selects]
    exact ⟨_, _, rfl, rfl, rfl⟩

theorem searchTimerBlock_stage (home : HomeViewController) (saved : List LocationModel)
    {query : String} (isSaid : query ≠ "") :
    (({ home with searchBarText := query }).searchTimerBlock saved).localLocationList =
        filterLocations saved query ∧
      (({ home with searchBarText := query }).searchTimerBlock saved).searches.length =
        home.searches.length + if filterLocations saved query = [] then 1 else 0 := by
  have searched : ({ home with searchBarText := query }).searchedLocations saved =
      filterLocations saved query := by
    simp [searchedLocations, isSaid]
  rw [searchTimerBlock_eq, searched]
  refine ⟨rfl, ?_⟩
  by_cases nothingFound : filterLocations saved query = []
  · simp [nothingFound, isSaid]
  · simp [nothingFound]

theorem agreesWithSearchBar_iff (home : HomeViewController) {query : String}
    (isSaid : query ≠ "") (saved : List LocationModel) :
    AgreesWithSearchBar home query saved ↔
      filterLocations home.localLocationList query = filterLocations saved query := by
  rcases filterLocationList_stage home isSaid with
    ⟨after, requests, handled, list, searches⟩
  rcases searchTimerBlock_stage home saved isSaid with ⟨timerList, timerSearches⟩
  constructor
  · rintro ⟨after', requests', handled', _, isSaved, _⟩
    rw [handled] at handled'
    simp only [Except.ok.injEq, Prod.mk.injEq] at handled'
    rw [← list, handled'.1, isSaved]
  · intro same
    refine ⟨after, requests, handled, ?_, ?_, ?_⟩
    · rw [list, timerList, same]
    · rw [list, same]
    · rw [searches, timerSearches, same]

theorem filter_matchesAll_eq_iff (saved : List LocationModel) (queries : List String)
    (query : String) :
    saved.filter (matchesAll (queries ++ [query])) = filterLocations saved query ↔
      ∀ location ∈ saved, containsText location.locationName query = true →
        matchesAll queries location = true := by
  have both : saved.filter (matchesAll (queries ++ [query])) =
      (filterLocations saved query).filter (matchesAll queries) := by
    rw [filterLocations, List.filter_filter]
    apply List.filter_congr
    intro location _
    exact matchesAll_snoc queries query location
  rw [both, List.filter_eq_self]
  simp only [filterLocations, List.mem_filter, and_imp]

/-- In every reachable state the two searches agree exactly when the list loaded last matches the
store. If it was loaded from the store, no saved location that matches may have been narrowed
away. -/
theorem agreesWithSearchBar_iff_loadedMatches {events : List Event}
    {finish : HomeViewController × ListHistory} (run : listMachine.Run ({}, {}) events finish)
    {query : String} (isSaid : query ≠ "") (saved : List LocationModel) :
    (AgreesWithSearchBar finish.1 query saved ↔ LoadedMatches finish.2 query saved) ∧
      (finish.2.loaded = saved →
        (AgreesWithSearchBar finish.1 query saved ↔
          ∀ location ∈ saved, containsText location.locationName query = true →
            ∀ earlier ∈ finish.2.queries,
              containsText location.locationName earlier = true)) := by
  have initially : Narrowed ({}, {}) := rfl
  have narrowed : Narrowed finish := run.invariant narrowed_preserved initially
  have agrees : AgreesWithSearchBar finish.1 query saved ↔ LoadedMatches finish.2 query saved := by
    rw [agreesWithSearchBar_iff finish.1 isSaid saved, LoadedMatches, narrowed,
      filterLocations_filter]
  refine ⟨agrees, ?_⟩
  intro fromStore
  rw [agrees, LoadedMatches, fromStore, filter_matchesAll_eq_iff]
  simp only [matchesAll, List.all_eq_true]

def lobby : LocationModel :=
  { locationName := "Lobby" }

def office : LocationModel :=
  { locationName := "Office" }

def lobbyFirst : List Event :=
  [.viewWillAppear [lobby, office], .filterLocationList "Lobby"]

theorem lobbyAgain_agrees :
    ∃ finish, listMachine.Run ({}, {}) lobbyFirst finish ∧
      AgreesWithSearchBar finish.1 "Lob" [lobby, office] := by
  have run : listMachine.Run ({}, {}) lobbyFirst
      ({ localLocationList := [lobby], tableRows := some 1 },
        { loaded := [lobby, office], queries := ["Lobby"] }) := .of_exec rfl
  refine ⟨_, run, (agreesWithSearchBar_iff_loadedMatches run (by decide) _).1.mpr ?_⟩
  simp only [LoadedMatches]
  decide

/-- The search bar would find the office; the voice command looks for it online. -/
theorem officeNext_missed :
    ∃ finish, machine.Run {} lobbyFirst finish ∧
      finish.localLocationList = [lobby] ∧
      ¬AgreesWithSearchBar finish "Office" [lobby, office] := by
  refine ⟨_, .of_exec rfl, rfl, ?_⟩
  rw [agreesWithSearchBar_iff _ (by decide)]
  decide

end VisionApp.HomeViewController
