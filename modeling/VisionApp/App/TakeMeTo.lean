import VisionApp.App.Delegation
import VisionApp.ViewController.LocalSearch

/-!
# The command to go somewhere

A spoken destination is cut off after the ten characters of the command, and
keeps the space that separates the two. The home screen then looks for names
that contain the destination with this space in front of it, so it never finds
the location that was named.
-/

namespace VisionApp.App

open EventMachine EventMachine.Machine

/-- The command of a location's name leads to that location and others whose names contain it, none
is looked for online, and one of them is announced. -/
def TakeMeToLaw (before : App) (location : LocationModel) : Prop :=
  ∃ after outputs, before.handle (.speech .voiceInputAction) = .ok (after, outputs) ∧
    (location ∈ after.home.localLocationList ∧
      ∀ found ∈ after.home.localLocationList,
        containsText found.locationName location.locationName = true) ∧
    after.home.searches = before.home.searches ∧
    ∃ announced ∈ after.home.localLocationList, after.speechManager =
      (before.speechManager.handle .voiceInputAction).1.voiceOutput announced.locationName
        .voiceCommandInfo

theorem isTrimmed_takeMeTo {name : String} (notEmpty : name ≠ "") (trimmed : IsTrimmed name) :
    IsTrimmed ("Take me to " ++ name) := by
  have characters : name.toList ≠ [] := by
    rw [ne_eq, String.toList_eq_nil_iff]
    exact notEmpty
  have command : "Take me to ".toList = 'T' :: "ake me to ".toList := by decide
  constructor
  · rw [String.toList_append, command, List.cons_append, List.head?_cons]
    decide
  · rw [String.toList_append, List.getLast?_append_of_ne_nil _ characters]
    exact trimmed.2

/-- The destination keeps the space after the command. -/
theorem awakeInteractorCall_takeMeTo (name : String) :
    SpeechManager.awakeInteractorCall ("Take me to " ++ name) =
      some (.filterLocationList (" " ++ name)) := by
  have spelled : ("Take me to " ++ name).toList =
      "Take me to".toList ++ (" " ++ name).toList := by
    simp
  have notOther : ∀ other : String, other.toList.head? ≠ some 'T' →
      "Take me to " ++ name ≠ other := by
    rintro other differs rfl
    simp at differs
  have ten : "Take me to".toList.length = 10 := by decide
  have longEnough : ¬("Take me to " ++ name).length < 10 := by
    rw [← String.length_toList, spelled, List.length_append, ten]
    omega
  have command : substringBefore ("Take me to " ++ name) 10 = "Take me to" := by
    rw [substringBefore, spelled, List.take_left' ten, String.ofList_toList]
  have destination : substringFrom ("Take me to " ++ name) 10 = " " ++ name := by
    rw [substringFrom, spelled, List.drop_left' ten, String.ofList_toList]
  simp only [SpeechManager.awakeInteractorCall, if_neg (notOther "Let's walk" (by decide)),
    if_neg (notOther "Where am I" (by decide)), if_neg longEnough, command, destination, if_true]

theorem not_contains_longer (name : String) : containsText name (" " ++ name) = false := by
  have longer : ¬(" " ++ name).toList <:+: name.toList := by
    intro isInfix
    have bound := isInfix.length_le
    have space : " ".toList.length = 1 := by decide
    rw [String.toList_append, List.length_append, space] at bound
    omega
  simp only [containsText, longer, decide_false]

theorem performAll_announcement (app : App) {requests : List HomeViewController.Output}
    (announces : requests = [] ∨ ∃ message, requests = [.voiceOutput message .voiceCommandInfo]) :
    ∃ after outputs, performAll performHome app requests = .ok (after, outputs) ∧
      after.home = app.home := by
  rcases announces with rfl | ⟨message, rfl⟩
  · exact ⟨app, [], rfl, rfl⟩
  · exact ⟨app.voiceOutput message .voiceCommandInfo, [], rfl, rfl⟩

theorem handle_takeMeTo {before : App} {name : String} (toHome : before.visionDelegate = some .home)
    (awake : before.speechManager.currentSpeechCommad = .voiceCommandAwakeInteractor)
    (notEmpty : name ≠ "") (trimmed : IsTrimmed name)
    (said : before.speechManager.voiceInputMessage = "Take me to " ++ name) :
    ∃ after outputs, before.handle (.speech .voiceInputAction) = .ok (after, outputs) ∧
      after.home.localLocationList =
        HomeViewController.filterLocations before.home.localLocationList (" " ++ name) := by
  have isSaid : " " ++ name ≠ "" := by simp
  have read := trimmingCharacters_of_isTrimmed (isTrimmed_takeMeTo notEmpty trimmed)
  rcases HomeViewController.filterLocationList_stage before.home isSaid with
    ⟨home, requests, handled, filtered, _⟩
  have announces := HomeViewController.filterLocationList_requests handled
  have acted : before.speechManager.handle .voiceInputAction =
      ({ before.speechManager with
        actionTimers := before.speechManager.actionTimers - 1
        voiceInputMessage := "Take me to " ++ name },
        [.visionDelegate (.filterLocationList (" " ++ name))]) := by
    simp only [SpeechManager.handle, SpeechManager.voiceInputAction, awake, said, read,
      awakeInteractorCall_takeMeTo]
    rfl
  rcases performAll_announcement
    { before with
      speechManager := { before.speechManager with
        actionTimers := before.speechManager.actionTimers - 1
        voiceInputMessage := "Take me to " ++ name }
      home := home } announces with ⟨after, outputs, performed, sameHome⟩
  rw [toHome] at performed
  refine ⟨after, .delegate .home (.filterLocationList (" " ++ name)) :: outputs ++ [], ?_, ?_⟩
  · simp only [handle, runSpeech, acted, performAll, performSpeech, callDelegate, toHome, dispatch,
      runHome, handled, bind, Except.bind, performed]
    rfl
  · rw [sameHome]
    exact filtered

/-- The command of a location's name never leads to that location. -/
theorem takeMeTo_misses {before : App} {location : LocationModel}
    (toHome : before.visionDelegate = some .home)
    (awake : before.speechManager.currentSpeechCommad = .voiceCommandAwakeInteractor)
    (notEmpty : location.locationName ≠ "") (trimmed : IsTrimmed location.locationName)
    (said : before.speechManager.voiceInputMessage = "Take me to " ++ location.locationName) :
    (∃ after outputs, before.handle (.speech .voiceInputAction) = .ok (after, outputs) ∧
      location ∉ after.home.localLocationList) ∧ ¬TakeMeToLaw before location := by
  rcases handle_takeMeTo toHome awake notEmpty trimmed said with
    ⟨after, outputs, handled, filtered⟩
  have missed : location ∉ after.home.localLocationList := by
    rw [filtered]
    simp [HomeViewController.filterLocations, not_contains_longer]
  refine ⟨⟨after, outputs, handled, missed⟩, ?_⟩
  rintro ⟨after', outputs', handled', ⟨found, _⟩, _⟩
  rw [handled] at handled'
  simp only [Except.ok.injEq, Prod.mk.injEq] at handled'
  rw [← handled'.1] at found
  exact missed found

def mainDoor : LocationModel :=
  { locationName := "Main door" }

/-- Home is the delegate, lists the main door, and hears that it is wanted. -/
def mainDoorWanted : App where
  speechManager := {
    currentSpeechCommad := .voiceCommandAwakeInteractor
    voiceInputMessage := "Take me to Main door"
    listeningSempahor := false
    actionTimers := 1 }
  home := { localLocationList := [mainDoor] }
  visionDelegate := some .home

theorem mainDoorWanted_misses :
    mainDoor ∈ mainDoorWanted.home.localLocationList ∧
      ∃ after outputs, mainDoorWanted.handle (.speech .voiceInputAction) = .ok (after, outputs) ∧
        mainDoor ∉ after.home.localLocationList :=
  ⟨List.mem_singleton_self mainDoor,
    (takeMeTo_misses rfl rfl (by decide) (by decide) rfl).1⟩

/-- The list runs empty, and " Main door" is looked for online. -/
theorem mainDoorWanted_searched :
    (∃ after outputs, mainDoorWanted.handle (.speech .voiceInputAction) = .ok (after, outputs) ∧
      after.home.localLocationList = [] ∧
      after.home.searches = [⟨" Main door", .filterLocationList⟩]) ∧
      ¬TakeMeToLaw mainDoorWanted mainDoor := by
  have searched : ∃ after outputs,
      mainDoorWanted.handle (.speech .voiceInputAction) = .ok (after, outputs) ∧
        after.home.localLocationList = [] ∧
        after.home.searches = [⟨" Main door", .filterLocationList⟩] := ⟨_, _, rfl, rfl, rfl⟩
  refine ⟨searched, ?_⟩
  rcases searched with ⟨after, outputs, handled, isEmpty, _⟩
  rintro ⟨after', outputs', handled', ⟨found, _⟩, _⟩
  rw [handled] at handled'
  simp only [Except.ok.injEq, Prod.mk.injEq] at handled'
  rw [← handled'.1, isEmpty] at found
  simp at found

end VisionApp.App
