import VisionApp.EventMachine.History
import VisionApp.EventMachine.InFlight
import VisionApp.ViewController.Selection

/-!
# Whose results are shown

The search bar and the voice command both look for locations, first in the list
and, when nothing is found there, online. The closure that an online search
completes with overwrites the list and does not know which query was evaluated
last. A history variable keeps the queries in the order in which they are
evaluated, each with its latest result. The list always shows a result of the
query that was evaluated or answered last, which need not be the latest query.
-/

namespace VisionApp.HomeViewController

open EventMachine EventMachine.Machine

/-- A query and its result: what it matched in the list, until its online search is answered. -/
structure Query where
  text : String
  result : List LocationModel
deriving DecidableEq, Repr

structure SearchHistory where
  /-- The queries evaluated so far, the latest last. -/
  queries : List Query := []
  /-- The positions of the queries that `searches` were started for. -/
  outstanding : List ℕ := []
  /-- The query evaluated or answered last, unless the screen has appeared since. -/
  shown : Option ℕ := none
deriving DecidableEq, Repr

namespace SearchHistory

def evaluate (history : SearchHistory) (text : String) (result : List LocationModel) :
    SearchHistory where
  queries := history.queries ++ [⟨text, result⟩]
  outstanding := history.outstanding ++
    if text ≠ "" ∧ result = [] then [history.queries.length] else []
  shown := some history.queries.length

def answer (history : SearchHistory) (index : ℕ) (result : List LocationModel) :
    SearchHistory :=
  match history.outstanding[index]? with
  | some number =>
      { queries := history.queries.modify number (fun query => { query with result := result })
        outstanding := history.outstanding.eraseIdx index
        shown := some number }
  | none => history

def fail (history : SearchHistory) (index : ℕ) : SearchHistory :=
  { history with outstanding := history.outstanding.eraseIdx index }

def observe (history : SearchHistory) (before : HomeViewController) : Event → SearchHistory
  | .filterLocationList filterInput =>
      if filterInput = "" then history
      else
        history.evaluate filterInput (filterLocations before.localLocationList filterInput)
  | .searchTimer saved =>
      history.evaluate before.searchBarText (before.searchedLocations saved)
  | .searchCompleted index mapItems =>
      match mapItems.map LocationManager.searchResults with
      | some (.ok result) => history.answer index result
      | _ => history.fail index
  | .viewWillAppear _ => { history with shown := none }
  | _ => history

end SearchHistory

def searchMachine :=
  machine.observed (fun history before event _ _ => SearchHistory.observe history before event)

/-- An answer replaces the list by the result of the query that its search was started for. -/
def OwnAnswer (before : HomeViewController × SearchHistory) (event : Event) : Prop :=
  ∀ index mapItems after requests, event = .searchCompleted index (some mapItems) →
    before.1.handle event = .ok (after, requests) →
      LocationManager.searchResults mapItems = .ok after.localLocationList ∧
        ∃ search number query, before.1.searches[index]? = some search ∧
          before.2.outstanding[index]? = some number ∧
          before.2.queries[number]? = some query ∧ search.naturalLanguageQuery = query.text

/-- Only the answer to the latest query replaces the list. -/
def OnlyLatest (before : HomeViewController × SearchHistory) (event : Event) : Prop :=
  ∀ index mapItems after requests number, event = .searchCompleted index (some mapItems) →
    before.1.handle event = .ok (after, requests) →
      before.2.outstanding[index]? = some number → number + 1 = before.2.queries.length

/-- The list is the latest result of the query that was evaluated or answered last. -/
def ShowsResult (state : HomeViewController × SearchHistory) : Prop :=
  ∀ number, state.2.shown = some number →
    (state.2.queries[number]?).map Query.result = some state.1.localLocationList

/-- The query that was evaluated or answered last is the latest one. -/
def ShowsLatest (state : HomeViewController × SearchHistory) : Prop :=
  ∀ number, state.2.shown = some number → number + 1 = state.2.queries.length

def evaluates : Event → Bool
  | .filterLocationList filterInput => filterInput ≠ ""
  | .searchTimer _ => true
  | _ => false

/-- No query is evaluated while a search is outstanding. -/
def Alone (before : HomeViewController × SearchHistory) (event : Event) : Prop :=
  evaluates event = true → before.1.searches = []

/-- The search was started for the query of that number. -/
def StartedFor (queries : List Query) (search : MKLocalSearch) (number : ℕ) : Prop :=
  ∃ query, queries[number]? = some query ∧ search.naturalLanguageQuery = query.text

/-- The history knows the query of every outstanding search. -/
def KnowsSearches (searches : List MKLocalSearch) (history : SearchHistory) : Prop :=
  Tracks (StartedFor history.queries) searches history.outstanding

/-- A step evaluates a query, ends a search, or leaves both the list and the searches alone. -/
inductive Recording (before : HomeViewController) (history : SearchHistory) :
    Event → HomeViewController → SearchHistory → Prop where
  | rested {event : Event} {after : HomeViewController}
      (sameList : after.localLocationList = before.localLocationList)
      (sameSearches : after.searches = before.searches) :
      Recording before history event after history
  | appeared {saved : List LocationModel} {after : HomeViewController}
      (sameSearches : after.searches = before.searches) :
      Recording before history (.viewWillAppear saved) after { history with shown := none }
  | evaluated {event : Event} {after : HomeViewController} {text : String}
      (completion : SearchCompletion) (isQuery : evaluates event = true)
      (started : after.searches = before.searches ++
        if text ≠ "" ∧ after.localLocationList = [] then [⟨text, completion⟩] else []) :
      Recording before history event after (history.evaluate text after.localLocationList)
  | answered {index : ℕ} {mapItems : List MKMapItem} {after : HomeViewController}
      {search : MKLocalSearch} (outstanding : before.searches[index]? = some search)
      (ended : after.searches = before.searches.eraseIdx index) :
      Recording before history (.searchCompleted index (some mapItems)) after
        (history.answer index after.localLocationList)
  | failed {index : ℕ} {mapItems : Option (List MKMapItem)} {after : HomeViewController}
      (sameList : after.localLocationList = before.localLocationList)
      (ended : after.searches = before.searches.eraseIdx index) :
      Recording before history (.searchCompleted index mapItems) after (history.fail index)

theorem recording_of_handle {before after : HomeViewController} {event : Event}
    {requests : List Output} (handled : before.handle event = .ok (after, requests))
    (isEnabled : before.enabled event = true) (history : SearchHistory) :
    Recording before history event after (history.observe before event) := by
  cases reaction_of_handle handled with
  | viewWillAppear saved => exact .appeared rfl
  | @filtered filterInput counter isSaid found =>
      simp only [SearchHistory.observe, if_neg isSaid]
      apply Recording.evaluated .filterLocationList
      · simpa [evaluates] using isSaid
      · simp [found]
  | @notFound filterInput isSaid nothingFound =>
      simp only [SearchHistory.observe, if_neg isSaid, nothingFound]
      apply Recording.evaluated .filterLocationList
      · simpa [evaluates] using isSaid
      · simp [isSaid]
  | textDidChange searchText =>
      rw [textDidChange_eq]
      exact .rested rfl rfl
  | searchTimer saved =>
      have searched : before.searchedLocations saved =
          (({ before with searchTimers := before.searchTimers - 1 }).searchTimerBlock
            saved).localLocationList := by
        rw [searchTimerBlock_eq]
        rfl
      simp only [SearchHistory.observe, searched]
      apply Recording.evaluated .searchBar rfl
      rw [searchTimerBlock_eq]
  | @answered index mapItems search found counter outstanding converted =>
      simp only [SearchHistory.observe, Option.map_some, converted]
      exact .answered outstanding rfl
  | @unanswered index mapItems nothing =>
      rcases failed_of_unanswered isEnabled nothing with rfl
      exact .failed rfl rfl
  | nothingSaid counter => exact .rested rfl rfl
  | swipe direction counter => exact .rested rfl rfl
  | tap => exact .rested rfl rfl
  | longPress => exact .rested rfl rfl
  | navigateToVision isLocalLocation => exact .rested rfl rfl
  | tableLayout => exact .rested rfl rfl
  | cellForRowAt inRange => exact .rested rfl rfl

theorem StartedFor.append {queries : List Query} {search : MKLocalSearch} {number : ℕ}
    (startedFor : StartedFor queries search number) (latest : Query) :
    StartedFor (queries ++ [latest]) search number := by
  rcases startedFor with ⟨query, found, isText⟩
  refine ⟨query, ?_, isText⟩
  rw [List.getElem?_append_left (List.getElem?_eq_some_iff.mp found).1]
  exact found

/-- A query keeps its text when it is answered. -/
theorem StartedFor.modify {queries : List Query} {search : MKLocalSearch} {number : ℕ}
    (startedFor : StartedFor queries search number) (answered : ℕ)
    (result : List LocationModel) :
    StartedFor (queries.modify answered (fun query => { query with result := result }))
      search number := by
  rcases startedFor with ⟨query, found, isText⟩
  by_cases isAnswered : answered = number
  · refine ⟨{ query with result := result }, ?_, isText⟩
    simp [isAnswered, found]
  · refine ⟨query, ?_, isText⟩
    simp [isAnswered, found]

namespace KnowsSearches

variable {searches : List MKLocalSearch} {history : SearchHistory}

theorem evaluate (knows : KnowsSearches searches history) (text : String)
    (result : List LocationModel) (completion : SearchCompletion) :
    KnowsSearches (searches ++ if text ≠ "" ∧ result = [] then [⟨text, completion⟩] else [])
      (history.evaluate text result) := by
  have older : Tracks (StartedFor (history.queries ++ [⟨text, result⟩])) searches
      history.outstanding :=
    Tracks.mono knows (fun _ _ startedFor => startedFor.append _)
  apply older.start
  split
  · exact .single ⟨⟨text, result⟩, by simp, rfl⟩
  · exact .nil

theorem fail (knows : KnowsSearches searches history) (index : ℕ) :
    KnowsSearches (searches.eraseIdx index) (history.fail index) :=
  Tracks.answer knows index

theorem answer (knows : KnowsSearches searches history) {index number : ℕ}
    (isOutstanding : history.outstanding[index]? = some number) (result : List LocationModel) :
    KnowsSearches (searches.eraseIdx index) (history.answer index result) := by
  simp only [KnowsSearches, SearchHistory.answer, isOutstanding]
  apply Tracks.mono (Tracks.answer knows index)
  intro search number' startedFor
  exact startedFor.modify number result

end KnowsSearches

theorem knowsSearches_recording {before after : HomeViewController}
    {history newHistory : SearchHistory} {event : Event}
    (recording : Recording before history event after newHistory)
    (knows : KnowsSearches before.searches history) : KnowsSearches after.searches newHistory := by
  cases recording with
  | rested _ sameSearches =>
      rw [sameSearches]
      exact knows
  | appeared sameSearches =>
      rw [sameSearches]
      exact knows
  | evaluated completion _ started =>
      rw [started]
      exact knows.evaluate _ _ completion
  | answered outstanding ended =>
      rcases Tracks.entry knows outstanding with ⟨number, isOutstanding, _⟩
      rw [ended]
      exact knows.answer isOutstanding _
  | failed _ ended =>
      rw [ended]
      exact knows.fail _

theorem showsResult_recording {before after : HomeViewController}
    {history newHistory : SearchHistory} {event : Event}
    (recording : Recording before history event after newHistory)
    (knows : KnowsSearches before.searches history) (shows : ShowsResult (before, history)) :
    ShowsResult (after, newHistory) := by
  intro number isShown
  cases recording with
  | rested sameList _ =>
      rw [sameList]
      exact shows number isShown
  | appeared _ => simp at isShown
  | evaluated completion _ _ =>
      rcases Option.some.inj isShown with rfl
      simp [SearchHistory.evaluate]
  | answered outstanding _ =>
      rcases Tracks.entry knows outstanding with ⟨answered, isOutstanding, query, found, _⟩
      simp only [SearchHistory.answer, isOutstanding] at isShown ⊢
      rcases Option.some.inj isShown with rfl
      simp [found]
  | failed sameList _ =>
      rw [sameList]
      exact shows number isShown

/-- The query shown and those being searched are the latest one. -/
def AllLatest (history : SearchHistory) : Prop :=
  (∀ number, history.shown = some number → number + 1 = history.queries.length) ∧
    ∀ number ∈ history.outstanding, number + 1 = history.queries.length

theorem allLatest_recording {before after : HomeViewController}
    {history newHistory : SearchHistory} {event : Event}
    (recording : Recording before history event after newHistory)
    (knows : KnowsSearches before.searches history) (latest : AllLatest history)
    (alone : evaluates event = true → before.searches = []) : AllLatest newHistory := by
  rcases latest with ⟨shownLatest, outstandingLatest⟩
  cases recording with
  | rested _ _ => exact ⟨shownLatest, outstandingLatest⟩
  | appeared _ => exact ⟨by simp, outstandingLatest⟩
  | evaluated completion isQuery _ =>
      have nothing : history.outstanding = [] := (Tracks.nil_iff knows).mp (alone isQuery)
      refine ⟨?_, ?_⟩
      · intro number isShown
        rcases Option.some.inj isShown with rfl
        simp [SearchHistory.evaluate]
      · intro number isOutstanding
        simp only [SearchHistory.evaluate, nothing, List.nil_append] at isOutstanding ⊢
        split at isOutstanding
        · simpa using isOutstanding
        · simp at isOutstanding
  | answered outstanding _ =>
      rcases Tracks.entry knows outstanding with ⟨answered, isOutstanding, _⟩
      simp only [AllLatest, SearchHistory.answer, isOutstanding, List.length_modify]
      refine ⟨?_, ?_⟩
      · intro number isShown
        rcases Option.some.inj isShown with rfl
        exact outstandingLatest _ (List.mem_of_getElem? isOutstanding)
      · intro number isLeft
        exact outstandingLatest number (List.mem_of_mem_eraseIdx isLeft)
  | failed _ _ =>
      refine ⟨shownLatest, ?_⟩
      intro number isLeft
      exact outstandingLatest number (List.mem_of_mem_eraseIdx isLeft)

theorem recording_of_step {before after : HomeViewController × SearchHistory} {event : Event}
    {outputs : List Output} (step : searchMachine.Step before event after outputs) :
    Recording before.1 before.2 event after.1 after.2 := by
  rcases observed_step_iff.mp step with ⟨machineStep, observed⟩
  rw [observed]
  exact recording_of_handle machineStep.2 machineStep.1 before.2

def Recorded (state : HomeViewController × SearchHistory) : Prop :=
  KnowsSearches state.1.searches state.2 ∧ ShowsResult state

theorem recorded_preserved : searchMachine.Preserved Recorded := by
  rintro before event after outputs ⟨knows, shows⟩ step
  have recording := recording_of_step step
  exact ⟨knowsSearches_recording recording knows, showsResult_recording recording knows shows⟩

theorem recorded_initial : Recorded ({}, {}) :=
  ⟨.nil, by simp [ShowsResult]⟩

theorem ownAnswer_of_recorded {before : HomeViewController × SearchHistory} {event : Event}
    (recorded : Recorded before) (isEnabled : before.1.enabled event = true) :
    OwnAnswer before event := by
  rintro index mapItems after requests rfl handled
  cases reaction_of_handle handled with
  | @answered _ _ search _ _ outstanding converted =>
      rcases Tracks.entry recorded.1 outstanding with
        ⟨number, isOutstanding, query, found, isText⟩
      exact ⟨converted, search, number, query, outstanding, isOutstanding, found, isText⟩
  | unanswered nothing =>
      have failed := failed_of_unanswered isEnabled nothing
      simp at failed

theorem allLatest_kept {before after : HomeViewController × SearchHistory} {event : Event}
    {outputs : List Output} (latest : Recorded before ∧ AllLatest before.2)
    (alone : Alone before event) (step : searchMachine.Step before event after outputs) :
    Recorded after ∧ AllLatest after.2 :=
  ⟨recorded_preserved before event after outputs latest.1 step,
    allLatest_recording (recording_of_step step) latest.1.1 latest.2 alone⟩

theorem allLatest_initial : Recorded ({}, {}) ∧ AllLatest {} :=
  ⟨recorded_initial, by simp [AllLatest]⟩

/-- An answer replaces the list by the result of its own query, and the list always shows a result
of the query evaluated or answered last. This is the latest query if no query is evaluated while a
search is outstanding. -/
theorem results_ofQueries (events : List Event) :
    (searchMachine.Always OwnAnswer ({}, {}) events ∧
      ∀ finish, searchMachine.Run ({}, {}) events finish → ShowsResult finish) ∧
      (searchMachine.Always Alone ({}, {}) events →
        searchMachine.Always OnlyLatest ({}, {}) events ∧
          ∀ finish, searchMachine.Run ({}, {}) events finish → ShowsLatest finish) := by
  refine ⟨⟨?_, ?_⟩, ?_⟩
  · intro earlier event later before _ run isEnabled
    exact ownAnswer_of_recorded (run.invariant recorded_preserved recorded_initial) isEnabled
  · intro finish run
    exact (run.invariant recorded_preserved recorded_initial).2
  · intro alone
    constructor
    · refine Always.of_guarded (fun _ _ _ _ => allLatest_kept) ?_ allLatest_initial alone
      rintro before event ⟨_, latest⟩ _ _ index mapItems after requests number _ _ isOutstanding
      exact latest.2 number (List.mem_of_getElem? isOutstanding)
    · intro finish run
      exact (run.guarded (fun _ _ _ _ => allLatest_kept) allLatest_initial alone).2.1

def gym : List MKMapItem :=
  [⟨some "Gym", some "Park Lane", {}⟩]

def bank : List MKMapItem :=
  [⟨some "Bank", some "Main Street", {}⟩]

def answersInTurn : List Event :=
  [.filterLocationList "Gym", .searchCompleted 0 (some gym), .filterLocationList "Bank",
    .searchCompleted 0 (some bank)]

theorem answersInTurn_latest :
    (∃ finish, searchMachine.Run ({}, {}) answersInTurn finish ∧ ShowsLatest finish ∧
      finish.1.localLocationList.map LocationModel.locationName = ["Bank"]) ∧
      searchMachine.Always OnlyLatest ({}, {}) answersInTurn := by
  have alone : searchMachine.Always Alone ({}, {}) answersInTurn := by
    refine .cons rfl (fun _ => rfl) (.cons rfl ?_ (.cons rfl (fun _ => rfl) (.cons rfl ?_ .nil)))
    · simp [Alone, evaluates]
    · simp [Alone, evaluates]
  rcases (results_ofQueries answersInTurn).2 alone with ⟨onlyLatest, showsLatest⟩
  exact ⟨⟨_, .of_exec rfl, showsLatest _ (.of_exec rfl), rfl⟩, onlyLatest⟩

def answersCrossing : List Event :=
  [.filterLocationList "Gym", .filterLocationList "Bank", .searchCompleted 1 (some bank),
    .searchCompleted 0 (some gym)]

/-- The list shows the gym, although nothing is outstanding and the bank was asked for last. -/
theorem answersCrossing_shown :
    ¬searchMachine.Always OnlyLatest ({}, {}) answersCrossing ∧
      ∃ finish, searchMachine.Run ({}, {}) answersCrossing finish ∧
        (finish.1.searchTimers = 0 ∧ finish.1.searches = []) ∧ ¬ShowsLatest finish ∧
        finish.1.localLocationList.map LocationModel.locationName = ["Gym"] := by
  constructor
  · apply Always.not_of_exec (answersCrossing.take 3) [] rfl rfl
    intro law
    exact absurd (law 0 _ _ _ 0 rfl rfl rfl) (by decide)
  · refine ⟨_, .of_exec rfl, ⟨rfl, rfl⟩, ?_, rfl⟩
    intro latest
    exact absurd (latest 0 rfl) (by decide)

end VisionApp.HomeViewController
