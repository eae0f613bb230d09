import VisionApp.EventMachine.History
import VisionApp.Location.LocationManager

/-!
# The address of the user

The parts of an address are appended to a field of the manager that nothing ever
empties, so an address begins with all those before it. An answer without a list
of placemarks is unwrapped all the same.
-/

namespace VisionApp.LocationManager

open EventMachine EventMachine.Machine

def partText (part : Option String) (separator : String) : String :=
  match part with
  | some text => text ++ separator
  | none => ""

/-- The parts that a placemark has, in order. -/
def addressText (pm : CLPlacemark) : String :=
  partText pm.subLocality ", " ++ partText pm.thoroughfare ", " ++ partText pm.locality ", " ++
    partText pm.country ", " ++ partText pm.postalCode " "

/-- The first placemark of a geocoder's answer. -/
def firstPlacemark : Event → Option CLPlacemark
  | .geocoded _ (some (pm :: _)) => some pm
  | _ => none

/-- The manager with the first placemarks that it was answered so far. -/
def addressMachine :=
  machine.observed (fun placemarks _ event _ _ => placemarks ++ (firstPlacemark event).toList)

/-- An answer completes with the parts of its own first placemark. Without one it completes with
nothing and changes nothing. -/
def AddressLaw (before : LocationManager × List CLPlacemark) (event : Event) : Prop :=
  ∀ index placemarksArray, event = .geocoded index placemarksArray →
    match placemarksArray with
    | some (pm :: _) =>
        ∃ after, before.1.handle event = .ok (after, [.completion (addressText pm)])
    | _ =>
        before.1.handle event =
          .ok ({ before.1 with geocodes := before.1.geocodes.eraseIdx index }, [])

/-- No answer fails, and none has a placemark after one with any part. -/
def AddressCondition (before : LocationManager × List CLPlacemark) (event : Event) : Prop :=
  ∀ index placemarksArray, event = .geocoded index placemarksArray →
    match placemarksArray with
    | some (_ :: _) => ∀ earlier ∈ before.2, earlier = {}
    | some [] => True
    | none => False

theorem appendPart_eq (addressString : String) (part : Option String) (separator : String) :
    appendPart addressString part separator = addressString ++ partText part separator := by
  cases part with
  | none => simp [appendPart, partText]
  | some text => simp [appendPart, partText, String.append_assoc]

theorem partText_eq_empty_iff {part : Option String} {separator : String}
    (notEmpty : separator ≠ "") : partText part separator = "" ↔ part = none := by
  cases part with
  | none => simp [partText]
  | some text => simp [partText, notEmpty]

theorem addressText_eq_empty_iff (pm : CLPlacemark) : addressText pm = "" ↔ pm = {} := by
  cases pm
  simp [addressText, partText_eq_empty_iff, and_assoc]

theorem geocoded_cons (manager : LocationManager) (pm : CLPlacemark) (rest : List CLPlacemark) :
    manager.geocoded (some (pm :: rest)) =
      .ok ({ manager with addressString := manager.addressString ++ addressText pm },
        some (manager.addressString ++ addressText pm)) := by
  simp only [geocoded, appendPart_eq, addressText, String.append_assoc]

/-- Nothing was appended exactly while no placemark had any part. -/
def Remembered (state : LocationManager × List CLPlacemark) : Prop :=
  state.1.addressString = "" ↔ ∀ earlier ∈ state.2, earlier = {}

theorem remembered_of_same {before after : LocationManager} {placemarks : List CLPlacemark}
    (remembered : Remembered (before, placemarks))
    (same : after.addressString = before.addressString) :
    Remembered (after, placemarks ++ []) := by
  rw [List.append_nil]
  simpa only [Remembered, same] using remembered

theorem remembered_geocoded {before after : LocationManager} {placemarks : List CLPlacemark}
    {index : ℕ} {placemarksArray : Option (List CLPlacemark)} {location : Option String}
    (remembered : Remembered (before, placemarks))
    (answered : ({ before with geocodes := before.geocodes.eraseIdx index }).geocoded
      placemarksArray = .ok (after, location)) :
    Remembered (after,
      placemarks ++ (firstPlacemark (.geocoded index placemarksArray)).toList) := by
  cases placemarksArray with
  | none => simp [geocoded] at answered
  | some placemarksArray =>
      cases placemarksArray with
      | nil =>
          simp only [geocoded, Except.ok.injEq, Prod.mk.injEq] at answered
          rcases answered with ⟨rfl, _⟩
          exact remembered_of_same remembered rfl
      | cons pm rest =>
          simp only [geocoded_cons, Except.ok.injEq, Prod.mk.injEq] at answered
          rcases answered with ⟨rfl, _⟩
          simp only [Remembered, firstPlacemark, Option.toList_some, List.forall_mem_append,
            List.forall_mem_singleton, String.append_eq_empty_iff, addressText_eq_empty_iff]
          exact and_congr_left' remembered

theorem remembered_preserved : addressMachine.Preserved Remembered := by
  apply observed_preserved
  intro before placemarks event after outputs remembered step
  cases reaction_of_handle step.2 with
  | geocoded answered => exact remembered_geocoded remembered answered
  | didUpdateLocations updated =>
      rcases didUpdateLocations_frame updated with ⟨location, _, count, _, rfl⟩
      exact remembered_of_same remembered rfl
  | visionWillAppear controller =>
      rcases visionWillAppear_frame before controller with ⟨_, _, frame⟩
      have same := congrArg addressString frame
      exact remembered_of_same remembered same
  | showRoute showed =>
      rcases showRoute_frame showed with ⟨moveCount, nextMove, rfl⟩
      exact remembered_of_same remembered rfl
  | directionsAnswered showed =>
      rcases showRoute_frame showed with ⟨moveCount, nextMove, rfl⟩
      exact remembered_of_same remembered rfl
  | didFailWithError => exact remembered_of_same remembered rfl
  | setDestinationCoordinate newValue => exact remembered_of_same remembered rfl
  | takeMeThere => exact remembered_of_same remembered rfl
  | initRoute => exact remembered_of_same remembered rfl
  | directionsFailed index => exact remembered_of_same remembered rfl
  | getUserLocatoin => exact remembered_of_same remembered rfl

theorem append_eq_self_iff {earlier address : String} :
    earlier ++ address = address ↔ earlier = "" := by
  have unchanged : "" ++ address = address := String.empty_append
  constructor
  · intro same
    exact (String.append_left_inj address).mp (same.trans unchanged.symm)
  · rintro rfl
    exact unchanged

theorem handle_geocoded_cons (manager : LocationManager) (index : ℕ) (pm : CLPlacemark)
    (rest : List CLPlacemark) :
    ∃ after, manager.handle (.geocoded index (some (pm :: rest))) =
      .ok (after, [.completion (manager.addressString ++ addressText pm)]) := by
  simp only [handle, geocoded_cons]
  exact ⟨_, rfl⟩

theorem addressLaw_iff {before : LocationManager × List CLPlacemark} {event : Event}
    (remembered : Remembered before) : AddressLaw before event ↔ AddressCondition before event := by
  apply forall_congr'
  intro index
  apply forall_congr'
  intro placemarksArray
  apply imp_congr_right
  rintro rfl
  cases placemarksArray with
  | none =>
      simp only [iff_false]
      intro impossible
      have failed : before.1.handle (.geocoded index none) = .error .unexpectedNil := rfl
      rw [failed] at impossible
      simp at impossible
  | some placemarksArray =>
      cases placemarksArray with
      | nil => exact iff_of_true rfl trivial
      | cons pm rest =>
          rcases handle_geocoded_cons before.1 index pm rest with ⟨after, handled⟩
          simp only [Remembered] at remembered
          rw [← remembered, ← append_eq_self_iff, handled]
          constructor
          · rintro ⟨after', same⟩
            simp only [Except.ok.injEq, Prod.mk.injEq, List.cons.injEq, Output.completion.injEq,
              and_true] at same
            exact same.2
          · intro same
            exact ⟨after, by rw [same]⟩

/-- The addresses of a run are right exactly when no answer fails and no placemark follows one with
any part. -/
theorem address_iff_condition (events : List Event) :
    addressMachine.Always AddressLaw ({}, []) events ↔
      addressMachine.Always AddressCondition ({}, []) events := by
  apply Always.congr
  intro before event reached _
  apply addressLaw_iff
  apply reached.invariant remembered_preserved
  simp [Remembered]

def askedTwice : List Event :=
  [.getUserLocatoin, .getUserLocatoin, .geocoded 0 (some [{ locality := some "Pune" }]),
    .geocoded 0 (some [{ locality := some "Delhi" }])]

def unanswered : List Event :=
  [.getUserLocatoin, .geocoded 0 none]

/-- The second address begins with the first one, and a failed answer ends the app. -/
theorem addresses_remembered :
    ((∃ before after, machine.Run {} (askedTwice.take 3) before ∧
      machine.Step before (.geocoded 0 (some [{ locality := some "Delhi" }])) after
        [.completion "Pune, Delhi, "]) ∧
      ¬addressMachine.Always AddressLaw ({}, []) askedTwice) ∧
      ((∃ before, machine.Run {} (unanswered.take 1) before ∧
        machine.handle before (.geocoded 0 none) = .error .unexpectedNil) ∧
        ¬addressMachine.Always AddressLaw ({}, []) unanswered) := by
  refine ⟨⟨⟨_, _, .of_exec rfl, rfl, rfl⟩, ?_⟩, ⟨_, .of_exec rfl, rfl⟩, ?_⟩
  · apply Always.not_of_exec (askedTwice.take 3) [] rfl rfl
    rw [addressLaw_iff (by simp only [Remembered]; decide)]
    intro condition
    exact absurd (condition 0 _ rfl { locality := some "Pune" } (by decide)) (by decide)
  · apply Always.not_of_exec (unanswered.take 1) [] rfl rfl
    rw [addressLaw_iff (by simp only [Remembered]; decide)]
    intro condition
    exact condition 0 none rfl

end VisionApp.LocationManager
