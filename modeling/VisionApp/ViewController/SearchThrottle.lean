import VisionApp.EventMachine.History
import VisionApp.EventMachine.OneShot
import VisionApp.ViewController.Selection

/-!
# The throttle of the search bar

An edit of the search text starts a timer unless one is pending, and most edits
are dropped. None is lost: the timer reads the text when it fires, and it is the
only thing that ends the time in which edits are dropped. That a text was
evaluated is judged by what the block of the timer leaves on the screen.
-/

namespace VisionApp.HomeViewController

open EventMachine EventMachine.Machine
open scoped List

/-- One run of the search timer's block. -/
structure Evaluation where
  /-- The saved locations that it found in the store. -/
  saved : List LocationModel
  /-- The online searches that were outstanding before. -/
  searches : List MKLocalSearch
  /-- The home screen as the block left it. -/
  screen : HomeViewController
deriving DecidableEq, Repr

/-- The block left the saved locations whose name contains the query, had the table reloaded, and
started an online search for a query that matches none. -/
structure Evaluation.Answers (evaluation : Evaluation) (query : String) : Prop where
  listed : evaluation.screen.localLocationList =
    evaluation.saved.filter (fun location => query.toList <:+: location.locationName.toList)
  reloaded : evaluation.screen.tableRows = some evaluation.screen.localLocationList.length
  searched : evaluation.screen.searches = evaluation.searches ++
    if query ≠ "" ∧ evaluation.screen.localLocationList = [] then [⟨query, .searchBar⟩] else []

structure EditHistory where
  edited : Bool := false
  /-- The last run of the search timer's block. -/
  last : Option Evaluation := none
deriving DecidableEq, Repr

def EditHistory.observe (history : EditHistory) (before : HomeViewController) (event : Event)
    (after : HomeViewController) : EditHistory :=
  match event with
  | .textDidChange _ => { history with edited := true }
  | .searchTimer saved =>
      { history with last := some { saved := saved, searches := before.searches, screen := after } }
  | _ => history

def throttleMachine :=
  machine.observed (fun history before event after _ =>
    EditHistory.observe history before event after)

/-- The search text has been evaluated, unless it was never edited. -/
def EditHistory.Evaluated (history : EditHistory) (text : String) : Prop :=
  history.edited = false ∨ ∃ evaluation, history.last = some evaluation ∧ evaluation.Answers text

/-- The flag is coupled to the timer, and without a timer the last evaluation is of the text. -/
structure Throttled (state : HomeViewController × EditHistory) : Prop where
  coupled : OneShot state.1.searchEditingSemaphor state.1.searchTimers
  evaluated : state.1.searchTimers = 0 → state.2.Evaluated state.1.searchBarText

/-- Every name contains the empty text. -/
theorem searchedLocations_eq (home : HomeViewController) (saved : List LocationModel) :
    home.searchedLocations saved = saved.filter (fun location =>
      home.searchBarText.toList <:+: location.locationName.toList) := by
  simp only [searchedLocations]
  split
  · rfl
  · rename_i isEmpty
    rw [ne_eq, not_not] at isEmpty
    simp [isEmpty]

theorem answers_searchTimerBlock (home : HomeViewController) (saved : List LocationModel) :
    ({ saved := saved, searches := home.searches, screen := home.searchTimerBlock saved } :
      Evaluation).Answers (home.searchTimerBlock saved).searchBarText := by
  rw [searchTimerBlock_eq]
  exact ⟨searchedLocations_eq home saved, rfl, rfl⟩

theorem throttled_of_reaction {before after : HomeViewController} {history : EditHistory}
    {event : Event} (throttled : Throttled (before, history))
    (isEnabled : before.enabled event = true) (reaction : Reaction before event after) :
    Throttled (after, history.observe before event after) := by
  cases reaction with
  | textDidChange searchText =>
      have coupled := throttled.coupled.closed
      rw [textDidChange_eq]
      exact ⟨coupled, fun noTimer => absurd noTimer coupled.pending_ne_zero⟩
  | searchTimer saved =>
      have pending : 0 < before.searchTimers := of_decide_eq_true isEnabled
      constructor
      · rw [searchTimerBlock_eq]
        exact throttled.coupled.fire pending
      · have answers := answers_searchTimerBlock { before with
          searchTimers := before.searchTimers - 1 } saved
        exact fun _ => Or.inr ⟨_, rfl, answers⟩
  | viewWillAppear saved => exact ⟨throttled.coupled, throttled.evaluated⟩
  | swipe direction counter => exact ⟨throttled.coupled, throttled.evaluated⟩
  | nothingSaid counter => exact ⟨throttled.coupled, throttled.evaluated⟩
  | filtered counter isSaid found => exact ⟨throttled.coupled, throttled.evaluated⟩
  | notFound isSaid nothingFound => exact ⟨throttled.coupled, throttled.evaluated⟩
  | answered counter outstanding converted => exact ⟨throttled.coupled, throttled.evaluated⟩
  | unanswered nothing => exact ⟨throttled.coupled, throttled.evaluated⟩
  | tableLayout => exact ⟨throttled.coupled, throttled.evaluated⟩
  | tap => exact throttled
  | longPress => exact throttled
  | navigateToVision isLocalLocation => exact throttled
  | cellForRowAt inRange => exact throttled

theorem throttled_preserved : throttleMachine.Preserved Throttled := by
  apply observed_preserved
  intro before history event after outputs throttled step
  exact throttled_of_reaction throttled step.1 (reaction_of_handle step.2)

/-- The search bar closes its flag exactly while its only timer is pending. While none is, the
list, the table and the online searches were last set by an evaluation of the present text, or the
text was never edited. -/
theorem search_evaluates_lastEdit {events : List Event} {finish : HomeViewController × EditHistory}
    (run : throttleMachine.Run ({}, {}) events finish) :
    ((finish.1.searchEditingSemaphor = false ↔ finish.1.searchTimers = 1) ∧
      finish.1.searchTimers ≤ 1) ∧
      (finish.1.searchTimers = 0 →
        finish.2.edited = false ∨
          ∃ evaluation, finish.2.last = some evaluation ∧
            evaluation.Answers finish.1.searchBarText) := by
  have initially : Throttled ({}, {}) := ⟨OneShot.initial, fun _ => Or.inl rfl⟩
  have throttled := run.invariant throttled_preserved initially
  exact ⟨OneShot.iff_closed.mp throttled.coupled, throttled.evaluated⟩

def fastTyping : List Event :=
  [.textDidChange "L", .textDidChange "Lo", .textDidChange "Lobby",
    .searchTimer [{ locationName := "Stairs" }, { locationName := "Lobby" }]]

/-- Only the first edit starts the timer, and it is the last one that is evaluated. -/
theorem fastTyping_evaluated :
    ∃ finish, throttleMachine.Run ({}, {}) fastTyping finish ∧
      finish.1.localLocationList.map LocationModel.locationName = ["Lobby"] ∧
      finish.1.searchEditingSemaphor = true ∧
      ∃ evaluation, finish.2.last = some evaluation ∧ evaluation.Answers "Lobby" := by
  have run : throttleMachine.Run ({}, {}) fastTyping
      ((throttleMachine.exec ({}, {}) fastTyping).getD ({}, {})) := .of_exec rfl
  rcases (search_evaluates_lastEdit run).2 rfl with unedited | evaluated
  · have isEdited : ((throttleMachine.exec ({}, {}) fastTyping).getD ({}, {})).2.edited = true :=
      rfl
    simp [isEdited] at unedited
  · exact ⟨_, run, rfl, rfl, evaluated⟩

end VisionApp.HomeViewController
