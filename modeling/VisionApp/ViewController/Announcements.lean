import VisionApp.ViewController.Requests
import VisionApp.ViewController.Selection

/-!
# What the screens say

The home screen announces locations of its list, and the vision screen the label
that it keeps, which is the first label of a result it is sure of.
-/

namespace VisionApp

namespace HomeViewController

/-- An announcement of the selection: the name of a location on the list, or that there is none. -/
def Announces (locations : List LocationModel) (message : String) : Prop :=
  message = "No more location available" ∨
    ∃ location ∈ locations, message = location.locationName

theorem announces_selectDestination {home after : HomeViewController} {requests : List Output}
    (selected : home.selectDestination = .ok (after, requests)) :
    ∃ message, requests = [.voiceOutput message .voiceCommandInfo] ∧
      Announces after.localLocationList message := by
  simp only [selectDestination] at selected
  split at selected
  · simp only [Except.ok.injEq, Prod.mk.injEq] at selected
    exact ⟨_, selected.2.symm, Or.inl rfl⟩
  · simp only [bind_eq_ok_iff, pure_eq_ok_iff, Prod.mk.injEq] at selected
    rcases selected with ⟨location, found, rfl, rfl⟩
    have present := List.mem_of_getElem? (subscript_eq_ok_iff.mp found).2
    exact ⟨_, rfl, Or.inr ⟨location, present, rfl⟩⟩

section Requests

variable {home after : HomeViewController} {requests : List Output} {message : String}
  {commandType : VoiceCommand}

theorem announces_of_selected (selected : home.selectDestination = .ok (after, requests))
    (said : .voiceOutput message commandType ∈ requests) :
    Announces after.localLocationList message := by
  rcases announces_selectDestination selected with ⟨announced, rfl, announces⟩
  rw [List.mem_singleton, Output.voiceOutput.injEq] at said
  rw [said.1]
  exact announces

theorem announces_searchCompletion {completion : SearchCompletion}
    {returnedlocationList : List LocationModel}
    (completed : home.searchCompletion completion returnedlocationList = .ok (after, requests))
    (said : .voiceOutput message commandType ∈ requests) :
    Announces after.localLocationList message := by
  cases completion with
  | searchBar =>
      simp only [searchCompletion, Except.ok.injEq, Prod.mk.injEq] at completed
      simp [← completed.2] at said
  | filterLocationList => exact announces_of_selected completed said

theorem announces_filterLocationList {filterInput : String}
    (filtered : home.filterLocationList filterInput = .ok (after, requests))
    (said : .voiceOutput message commandType ∈ requests) :
    Announces after.localLocationList message := by
  simp only [filterLocationList] at filtered
  split at filtered
  · exact announces_of_selected filtered said
  · split at filtered
    · simp only [Except.ok.injEq, Prod.mk.injEq] at filtered
      simp [← filtered.2] at said
    · exact announces_of_selected filtered said

/-- But for the prompt of the long press, the home screen only announces locations. -/
theorem announces_of_handle {event : Event} (handled : home.handle event = .ok (after, requests))
    (said : .voiceOutput message commandType ∈ requests) :
    message = "Hi I am Listening" ∨ Announces after.localLocationList message := by
  cases asks_of_handle handled with
  | prompt =>
      rw [List.mem_singleton, Output.voiceOutput.injEq] at said
      exact Or.inl said.1
  | announcement announcesSelection text =>
      right
      cases event with
      | filterLocationList filterInput => exact announces_filterLocationList handled said
      | searchCompleted index mapItems =>
          simp only [handle, searchCompleted] at handled
          split at handled
          · simp only [bind_eq_ok_iff] at handled
            rcases handled with ⟨returnedlocationList, _, completed⟩
            exact announces_searchCompletion completed said
          · simp at handled
      | _ => simp [HomeViewController.announcesSelection] at announcesSelection
  | selection direction text row vertical =>
      right
      have isText : message = text := by simpa using And.left (by simpa using said)
      rw [isText]
      rcases vertical with rfl | rfl
      · simp only [handle, swipeDetected, bind_eq_ok_iff, pure_eq_ok_iff, Prod.mk.injEq,
          Prod.exists] at handled
        rcases handled with ⟨middle, announced, selected, rfl, same⟩
        rcases announces_selectDestination selected with ⟨announced, rfl, announces⟩
        simp only [List.singleton_append, List.cons.injEq, Output.voiceOutput.injEq] at same
        rw [← same.1.1]
        exact announces
      · simp only [handle, swipeDetected, bind_eq_ok_iff, pure_eq_ok_iff, Prod.mk.injEq,
          Prod.exists] at handled
        rcases handled with ⟨middle, announced, selected, rfl, same⟩
        rcases announces_selectDestination selected with ⟨announced, rfl, announces⟩
        simp only [List.singleton_append, List.cons.injEq, Output.voiceOutput.injEq] at same
        rw [← same.1.1]
        exact announces
  | nothing notGesture => simp at said
  | segue opens => simp at said
  | save => simp at said
  | whereAmI => simp at said

end Requests

end HomeViewController

namespace VisionViewController

open EventMachine

/-- A label that a screen may keep: the first label of a result with a confidence over one half, in
the results of one of its tasks. -/
def Classified (events : List Event) (label : String) : Prop :=
  ∃ classifications error, .taskPerformed (some classifications) error ∈ events ∧
    ∃ result ∈ classifications, 1 / 2 < result.confidence ∧
      firstLabel result.identifier = some label

theorem Classified.later {events : List Event} {label : String}
    (classified : Classified events label) (event : Event) :
    Classified (events ++ [event]) label := by
  rcases classified with ⟨classifications, error, performed, sure⟩
  exact ⟨classifications, error, List.mem_append_left _ performed, sure⟩

theorem bestClassification_fst (classifications : List VNClassificationObservation) :
    (bestClassification classifications).1 = "" ∨
      ∃ result ∈ classifications, 1 / 2 < result.confidence ∧
        firstLabel result.identifier = some (bestClassification classifications).1 := by
  simp only [bestClassification]
  split
  · rename_i best isBest
    have sure := List.find?_some isBest
    split
    · rename_i label isLabel
      exact Or.inr ⟨best, List.mem_of_find?_eq_some isBest, by simpa using sure, isLabel⟩
    · exact Or.inl rfl
  · exact Or.inl rfl

/-- A screen keeps no label, or one of its own results. -/
theorem classified_of_run {start finish : VisionViewController} {events : List Event}
    (unclassified : start.identifierString = "") (run : machine.Run start events finish) :
    finish.identifierString = "" ∨ Classified events finish.identifierString := by
  induction run with
  | refl => exact Or.inl unclassified
  | @snoc events before after event outputs earlier step ih =>
      have kept (same : after.identifierString = before.identifierString) :
          after.identifierString = "" ∨
            Classified (events ++ [event]) after.identifierString := by
        rw [same]
        exact ih.imp_right (fun classified => classified.later event)
      cases reaction_of_handle step.2 with
      | @taskClassified classifications error visionQueue sameBuffers =>
          rcases bestClassification_fst classifications with none | ⟨result, present, sure⟩
          · exact Or.inl none
          · exact Or.inr ⟨classifications, error, by simp, result, present, sure⟩
      | swipe direction => exact kept rfl
      | tap => exact kept rfl
      | frameTaken free => exact kept rfl
      | frameIgnored ignored => exact kept rfl
      | taskUnclassified sameBuffers => exact kept rfl
      | taskEnded => exact kept rfl
      | displayBlock => exact kept rfl

theorem detected_of_handle {controller after : VisionViewController} {event : Event}
    {requests : List Output} (handled : controller.handle event = .ok (after, requests))
    {message : String} {commandType : VoiceCommand}
    (said : .voiceOutput message commandType ∈ requests) :
    message = "Taking you to home Screen" ∨
      controller.identifierString ≠ "" ∧ message = "Detected " ++ controller.identifierString := by
  cases reaction_of_handle handled with
  | swipe direction =>
      left
      cases direction <;> simp_all [swipeDetected]
  | displayBlock =>
      right
      simp only [displayClassifierResults] at said
      split at said
      · simp at said
      · rename_i notEmpty
        simp only [Option.map_some, Option.toList_some, List.mem_singleton,
          Output.voiceOutput.injEq] at said
        refine ⟨?_, said.1⟩
        rintro isEmpty
        simp [isEmpty] at notEmpty
  | tap => simp at said
  | frameTaken free => simp at said
  | frameIgnored ignored => simp at said
  | taskClassified sameBuffers => simp at said
  | taskUnclassified sameBuffers => simp at said
  | taskEnded => simp at said

end VisionViewController

end VisionApp
