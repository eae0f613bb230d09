import VisionApp.ViewController.HomeViewController

/-!
# What the screens ask of other components

Every handler of a screen makes at most two calls on other components, and which
ones is decided by the event. Everything but the long press speaks as
information.
-/

namespace VisionApp

namespace HomeViewController

def isGesture : Event → Bool
  | .swipe _ | .tap | .longPress => true
  | _ => false

/-- The handlers that may end by announcing the selected location. -/
def announcesSelection : Event → Bool
  | .filterLocationList _ | .searchCompleted _ _ => true
  | _ => false

/-- The calls of the home screen, in their order. -/
inductive Asks : Event → List Output → Prop where
  | nothing {event : Event} (notGesture : isGesture event = false) : Asks event []
  | announcement {event : Event} (announces : announcesSelection event = true)
      (message : String) : Asks event [.voiceOutput message .voiceCommandInfo]
  | selection (direction : SwipeDirection) (message : String) (row : ℤ)
      (vertical : direction = .up ∨ direction = .down) :
      Asks (.swipe direction) [.voiceOutput message .voiceCommandInfo, .scrollToRow row]
  | segue {event : Event} (opens : opensVision event = true) :
      Asks event [.performSegue "VisionIdentifier"]
  | save : Asks (.swipe .left) [.saveThisLocation]
  | whereAmI : Asks .tap [.whereAmI]
  | prompt : Asks .longPress [.voiceOutput "Hi I am Listening" .voiceCommandAwakeInteractor]

theorem asks_of_handle {home after : HomeViewController} {event : Event} {requests : List Output}
    (handled : home.handle event = .ok (after, requests)) : Asks event requests := by
  cases event with
  | swipe direction =>
      cases direction with
      | up =>
          simp only [handle, swipeDetected, bind_eq_ok_iff, pure_eq_ok_iff, Prod.mk.injEq,
            Prod.exists] at handled
          rcases handled with ⟨middle, announced, selected, _, rfl⟩
          rcases selectDestination_requests selected with ⟨message, rfl⟩
          exact .selection .up message _ (Or.inl rfl)
      | down =>
          simp only [handle, swipeDetected, bind_eq_ok_iff, pure_eq_ok_iff, Prod.mk.injEq,
            Prod.exists] at handled
          rcases handled with ⟨middle, announced, selected, _, rfl⟩
          rcases selectDestination_requests selected with ⟨message, rfl⟩
          exact .selection .down message _ (Or.inr rfl)
      | left =>
          simp only [handle, swipeDetected, Except.ok.injEq, Prod.mk.injEq] at handled
          rcases handled with ⟨_, rfl⟩
          exact .save
      | right =>
          rcases navigateToVision_requests handled with ⟨_, rfl⟩
          exact .segue rfl
  | tap =>
      simp only [handle, Except.ok.injEq, Prod.mk.injEq] at handled
      rcases handled with ⟨_, rfl⟩
      exact .whereAmI
  | longPress =>
      simp only [handle, Except.ok.injEq, Prod.mk.injEq] at handled
      rcases handled with ⟨_, rfl⟩
      exact .prompt
  | navigateToVision isLocalLocation =>
      rcases navigateToVision_requests handled with ⟨_, rfl⟩
      exact .segue rfl
  | filterLocationList filterInput =>
      rcases filterLocationList_requests handled with rfl | ⟨message, rfl⟩
      · exact .nothing rfl
      · exact .announcement rfl message
  | searchCompleted index mapItems =>
      rcases searchCompleted_requests handled with rfl | ⟨message, rfl⟩
      · exact .nothing rfl
      · exact .announcement rfl message
  | cellForRowAt row =>
      simp only [handle, bind_eq_ok_iff, pure_eq_ok_iff, Prod.mk.injEq] at handled
      rcases handled with ⟨_, _, _, rfl⟩
      exact .nothing rfl
  | viewWillAppear saved =>
      simp only [handle, Except.ok.injEq, Prod.mk.injEq] at handled
      rcases handled with ⟨_, rfl⟩
      exact .nothing rfl
  | textDidChange searchText =>
      simp only [handle, Except.ok.injEq, Prod.mk.injEq] at handled
      rcases handled with ⟨_, rfl⟩
      exact .nothing rfl
  | searchTimer saved =>
      simp only [handle, Except.ok.injEq, Prod.mk.injEq] at handled
      rcases handled with ⟨_, rfl⟩
      exact .nothing rfl
  | tableLayout =>
      simp only [handle, Except.ok.injEq, Prod.mk.injEq] at handled
      rcases handled with ⟨_, rfl⟩
      exact .nothing rfl

theorem Asks.tap {event : Event} {requests : List Output} (asks : Asks event requests)
    (asked : .whereAmI ∈ requests) : event = .tap := by
  cases asks with
  | whereAmI => rfl
  | _ => simp at asked

end HomeViewController

namespace VisionViewController

/-- The calls of a vision screen, in their order. A long press ends the app. -/
inductive Asks : Event → List Output → Prop where
  | nothing {event : Event} (notSave : event ≠ .swipe .down) (notLeave : event ≠ .swipe .left) :
      Asks event []
  | save : Asks (.swipe .down) [.saveThisLocation]
  | leave : Asks (.swipe .left)
      [.voiceOutput "Taking you to home Screen" .voiceCommandInfo, .popViewController]
  | whereAmI : Asks .tap [.getUserLocatoin]
  | detection (message : String) : Asks .displayBlock [.voiceOutput message .voiceCommandInfo]

theorem asks_of_handle {controller after : VisionViewController} {event : Event}
    {requests : List Output} (handled : controller.handle event = .ok (after, requests)) :
    Asks event requests := by
  cases reaction_of_handle handled with
  | swipe direction =>
      cases direction with
      | up => exact .nothing (by simp) (by simp)
      | down => exact .save
      | left => exact .leave
      | right => exact .nothing (by simp) (by simp)
  | tap => exact .whereAmI
  | displayBlock =>
      cases controller.displayClassifierResults with
      | none => exact .nothing (by simp) (by simp)
      | some message => exact .detection message
  | frameTaken free => exact .nothing (by simp) (by simp)
  | frameIgnored ignored => exact .nothing (by simp) (by simp)
  | taskClassified sameBuffers => exact .nothing (by simp) (by simp)
  | taskUnclassified sameBuffers => exact .nothing (by simp) (by simp)
  | taskEnded => exact .nothing (by simp) (by simp)

end VisionViewController

end VisionApp
