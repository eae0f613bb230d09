import VisionApp.EventMachine.Basic
import VisionApp.Realm.RealmManager
import VisionApp.SpeechKit.SpeechManager
import Mathlib.Algebra.Order.Ring.Unbundled.Rat

/-!
# The vision screen

A `VisionViewController` shows the camera, guides to a destination when it has
one, and announces the objects that the classifier recognises. The record holds
the stored properties of the controller, the tasks on its serial `visionQueue`
and the `displayClassifierResults` blocks it left with the main queue. What the
handlers ask of other components is returned as outputs. Layout, the map view
and the AR scene are left out, but for the camera frames its session delivers.
-/

namespace VisionApp

inductive SwipeDirection where
  | up
  | down
  | left
  | right
deriving DecidableEq, Repr

/-- A pixel buffer, named by the frame it was captured with. -/
abbrev CVPixelBuffer := ℕ

/-- A classification task on `visionQueue`, and whether its request has been performed. -/
structure VisionTask where
  buffer : CVPixelBuffer
  performed : Bool := false
deriving DecidableEq, Repr

/-- A confidence is a number between 0 and 1. -/
structure VNClassificationObservation where
  identifier : String
  confidence : ℚ
deriving DecidableEq, Repr

structure VisionViewController where
  destinationLocation : Option LocationModel := none
  title : Option String := none
  currentBuffer : Option CVPixelBuffer := none
  identifierString : String := ""
  confidence : ℚ := 0
  /-- The tasks on `visionQueue` that have not ended, the running one first. -/
  visionQueue : List VisionTask := []
  /-- Pending `displayClassifierResults` blocks on the main queue. -/
  displayBlocks : ℕ := 0
deriving DecidableEq, Repr

namespace VisionViewController

/-- The controller part of `viewWillAppear`, and the coordinate it assigns to
`LocationManager.destinationCoordinate`, if any. -/
def viewWillAppear (controller : VisionViewController) :
    VisionViewController × Option CLLocationCoordinate2D :=
  match controller.destinationLocation with
  | some dest =>
      ({ controller with title := some dest.locationName }, some dest.coordinate)
  | none => ({ controller with title := some "Walking" }, none)

def isImageOrientation (rawValue : ℕ) : Bool :=
  1 ≤ rawValue && rawValue ≤ 8

def classifyCurrentImage (controller : VisionViewController) (orientation : ℕ) :
    Except Trap VisionViewController :=
  match controller.currentBuffer with
  | none => .error .unexpectedNil
  | some buffer =>
      if isImageOrientation orientation then
        .ok { controller with visionQueue := controller.visionQueue ++ [{ buffer := buffer }] }
      else .error .unexpectedNil

/-- `session(_:didUpdate:)` for a frame whose tracking state is normal or not. -/
def sessionDidUpdate (controller : VisionViewController) (capturedImage : CVPixelBuffer)
    (trackingIsNormal : Bool) (orientation : ℕ) : Except Trap VisionViewController :=
  if controller.currentBuffer = none ∧ trackingIsNormal = true then
    ({ controller with currentBuffer := some capturedImage }).classifyCurrentImage orientation
  else .ok controller

/-- The first label of an identifier such as `"street sign, signboard"`. -/
def firstLabel (identifier : String) : Option String :=
  (((identifier.toList.splitOn ',').filter (fun label => !label.isEmpty)).map String.ofList).head?

/-- The label and confidence that `processClassifications` keeps. -/
def bestClassification (classifications : List VNClassificationObservation) : String × ℚ :=
  match classifications.find? (fun result => 1 / 2 < result.confidence) with
  | some bestResult =>
      match firstLabel bestResult.identifier with
      | some label => (label, bestResult.confidence)
      | none => ("", 0)
  | none => ("", 0)

/-- Without results the error is printed, so it must be there. -/
def processClassifications (controller : VisionViewController)
    (results : Option (List VNClassificationObservation)) (error : Option String) :
    Except Trap VisionViewController :=
  match results with
  | none =>
      match error with
      | none => .error .unexpectedNil
      | some _ => .ok controller
  | some classifications =>
      let best := bestClassification classifications
      .ok { controller with
        identifierString := best.1
        confidence := best.2
        displayBlocks := controller.displayBlocks + 1 }

/-- The running task performs its request, whose completion handler is called at once. -/
def performTask (controller : VisionViewController)
    (results : Option (List VNClassificationObservation)) (error : Option String) :
    Except Trap VisionViewController := do
  let controller ← controller.processClassifications results error
  match controller.visionQueue with
  | task :: rest =>
      return { controller with visionQueue := { task with performed := true } :: rest }
  | [] => return controller

/-- The running task leaves its scope, normally or by an error: `defer` releases the buffer. -/
def endTask (controller : VisionViewController) : VisionViewController :=
  { controller with currentBuffer := none, visionQueue := controller.visionQueue.tail }

/-- What `displayClassifierResults` asks the speech manager to say, if anything. -/
def displayClassifierResults (controller : VisionViewController) : Option String :=
  if controller.identifierString.isEmpty then none
  else some ("Detected " ++ controller.identifierString)

inductive Event where
  | swipe (direction : SwipeDirection)
  | tap
  | longPress
  | sessionDidUpdate (capturedImage : CVPixelBuffer) (trackingIsNormal : Bool) (orientation : ℕ)
  | taskPerformed (results : Option (List VNClassificationObservation)) (error : Option String)
  | taskEnded
  | displayBlock
deriving DecidableEq, Repr

inductive Output where
  | voiceOutput (message : String) (commandType : VoiceCommand)
  | saveThisLocation
  | getUserLocatoin
  | popViewController
deriving DecidableEq, Repr

/-- The queue is serial: only its first task performs its request, once, and ends. -/
def enabled (controller : VisionViewController) : Event → Bool
  | .taskPerformed _ _ => controller.visionQueue.head?.any (fun task => !task.performed)
  | .taskEnded => !controller.visionQueue.isEmpty
  | .displayBlock => 0 < controller.displayBlocks
  | _ => true

/-- `swipeDetected`; the two tests of the source exclude each other. -/
def swipeDetected (direction : SwipeDirection) : List Output :=
  (if direction = .down then [.saveThisLocation] else []) ++
    if direction = .left then
      [.voiceOutput "Taking you to home Screen" .voiceCommandInfo, .popViewController]
    else []

def handle (controller : VisionViewController) :
    Event → Except Trap (VisionViewController × List Output)
  | .swipe direction => .ok (controller, swipeDetected direction)
  | .tap => .ok (controller, [.getUserLocatoin])
  -- The handler is not exposed to Objective-C, so the recogniser's selector finds nothing.
  | .longPress => .error .unrecognizedSelector
  | .sessionDidUpdate capturedImage trackingIsNormal orientation => do
      let controller ← controller.sessionDidUpdate capturedImage trackingIsNormal orientation
      return (controller, [])
  | .taskPerformed results error => do
      let controller ← controller.performTask results error
      return (controller, [])
  | .taskEnded => .ok (controller.endTask, [])
  | .displayBlock =>
      let controller := { controller with displayBlocks := controller.displayBlocks - 1 }
      let message := controller.displayClassifierResults
      .ok (controller,
        (message.map (fun message => Output.voiceOutput message .voiceCommandInfo)).toList)

def machine : EventMachine.Machine VisionViewController Event Output Trap where
  enabled := enabled
  handle := handle

theorem destinationLocation_viewWillAppear (controller : VisionViewController) :
    controller.viewWillAppear.1.destinationLocation = controller.destinationLocation := by
  simp only [viewWillAppear]
  split <;> rfl

/-- What handling an event without a fault leads to. Of the tasks, only whether they performed their
request is not followed. -/
inductive Reaction (before : VisionViewController) :
    Event → VisionViewController → List Output → Prop where
  | swipe (direction : SwipeDirection) :
      Reaction before (.swipe direction) before (swipeDetected direction)
  | tap : Reaction before .tap before [.getUserLocatoin]
  | frameTaken {capturedImage : CVPixelBuffer} {orientation : ℕ}
      (free : before.currentBuffer = none) :
      Reaction before (.sessionDidUpdate capturedImage true orientation)
        { before with
          currentBuffer := some capturedImage
          visionQueue := before.visionQueue ++ [{ buffer := capturedImage }] } []
  | frameIgnored {capturedImage : CVPixelBuffer} {trackingIsNormal : Bool} {orientation : ℕ}
      (ignored : before.currentBuffer ≠ none ∨ trackingIsNormal = false) :
      Reaction before (.sessionDidUpdate capturedImage trackingIsNormal orientation) before []
  | taskClassified {classifications : List VNClassificationObservation} {error : Option String}
      {visionQueue : List VisionTask}
      (sameBuffers : visionQueue.map VisionTask.buffer =
        before.visionQueue.map VisionTask.buffer) :
      Reaction before (.taskPerformed (some classifications) error)
        { before with
          identifierString := (bestClassification classifications).1
          confidence := (bestClassification classifications).2
          visionQueue := visionQueue
          displayBlocks := before.displayBlocks + 1 } []
  | taskUnclassified {error : Option String} {visionQueue : List VisionTask}
      (sameBuffers : visionQueue.map VisionTask.buffer =
        before.visionQueue.map VisionTask.buffer) :
      Reaction before (.taskPerformed none error) { before with visionQueue := visionQueue } []
  | taskEnded : Reaction before .taskEnded before.endTask []
  | displayBlock :
      Reaction before .displayBlock { before with displayBlocks := before.displayBlocks - 1 }
        (before.displayClassifierResults.map (fun message =>
          Output.voiceOutput message .voiceCommandInfo)).toList

theorem sessionDidUpdate_of_ignored {controller : VisionViewController}
    {capturedImage : CVPixelBuffer} {trackingIsNormal : Bool} {orientation : ℕ}
    (ignored : controller.currentBuffer ≠ none ∨ trackingIsNormal = false) :
    controller.sessionDidUpdate capturedImage trackingIsNormal orientation = .ok controller := by
  simp only [sessionDidUpdate]
  split
  · rename_i accepted
    rcases ignored with held | notTracked
    · exact absurd accepted.1 held
    · simp [notTracked] at accepted
  · rfl

theorem reaction_sessionDidUpdate {before after : VisionViewController}
    {capturedImage : CVPixelBuffer} {trackingIsNormal : Bool} {orientation : ℕ}
    (updated : before.sessionDidUpdate capturedImage trackingIsNormal orientation = .ok after) :
    Reaction before (.sessionDidUpdate capturedImage trackingIsNormal orientation) after [] := by
  by_cases accepted : before.currentBuffer = none ∧ trackingIsNormal = true
  · rcases accepted with ⟨free, rfl⟩
    simp only [sessionDidUpdate, free, and_self, if_true, classifyCurrentImage] at updated
    split at updated
    · simp only [Except.ok.injEq] at updated
      subst after
      exact .frameTaken free
    · simp at updated
  · have ignored : before.currentBuffer ≠ none ∨ trackingIsNormal = false := by
      rw [← Bool.not_eq_true, ne_eq, ← not_and_or]
      exact accepted
    rw [sessionDidUpdate_of_ignored ignored, Except.ok.injEq] at updated
    subst after
    exact .frameIgnored ignored

theorem performTask_eq {controller after : VisionViewController}
    {results : Option (List VNClassificationObservation)} {error : Option String}
    (performed : controller.performTask results error = .ok after) :
    ∃ middle visionQueue, controller.processClassifications results error = .ok middle ∧
      visionQueue.map VisionTask.buffer = middle.visionQueue.map VisionTask.buffer ∧
      after = { middle with visionQueue := visionQueue } := by
  simp only [performTask, bind_eq_ok_iff] at performed
  rcases performed with ⟨middle, processed, performed⟩
  split at performed
  · rename_i task rest queued
    rw [pure_eq_ok_iff] at performed
    subst after
    exact ⟨middle, _, processed, by rw [queued]; rfl, rfl⟩
  · rw [pure_eq_ok_iff] at performed
    subst after
    exact ⟨middle, middle.visionQueue, processed, rfl, rfl⟩

theorem reaction_taskPerformed {before after : VisionViewController}
    {results : Option (List VNClassificationObservation)} {error : Option String}
    (performed : before.performTask results error = .ok after) :
    Reaction before (.taskPerformed results error) after [] := by
  rcases performTask_eq performed with ⟨middle, visionQueue, processed, sameBuffers, rfl⟩
  cases results with
  | some classifications =>
      simp only [processClassifications, Except.ok.injEq] at processed
      subst middle
      exact .taskClassified sameBuffers
  | none =>
      cases error with
      | none => simp [processClassifications] at processed
      | some message =>
          simp only [processClassifications, Except.ok.injEq] at processed
          subst middle
          exact .taskUnclassified sameBuffers

theorem reaction_of_handle {before after : VisionViewController} {event : Event}
    {outputs : List Output} (handled : before.handle event = .ok (after, outputs)) :
    Reaction before event after outputs := by
  cases event with
  | sessionDidUpdate capturedImage trackingIsNormal orientation =>
      simp only [handle, bind_eq_ok_iff, pure_eq_ok_iff, Prod.mk.injEq] at handled
      rcases handled with ⟨middle, updated, rfl, rfl⟩
      exact reaction_sessionDidUpdate updated
  | taskPerformed results error =>
      simp only [handle, bind_eq_ok_iff, pure_eq_ok_iff, Prod.mk.injEq] at handled
      rcases handled with ⟨middle, performed, rfl, rfl⟩
      exact reaction_taskPerformed performed
  | swipe direction =>
      simp only [handle, Except.ok.injEq, Prod.mk.injEq] at handled
      rcases handled with ⟨rfl, rfl⟩
      exact .swipe direction
  | tap =>
      simp only [handle, Except.ok.injEq, Prod.mk.injEq] at handled
      rcases handled with ⟨rfl, rfl⟩
      exact .tap
  | longPress => simp [handle] at handled
  | taskEnded =>
      simp only [handle, Except.ok.injEq, Prod.mk.injEq] at handled
      rcases handled with ⟨rfl, rfl⟩
      exact .taskEnded
  | displayBlock =>
      simp only [handle, Except.ok.injEq, Prod.mk.injEq] at handled
      rcases handled with ⟨rfl, rfl⟩
      exact .displayBlock

theorem destinationLocation_handle {controller after : VisionViewController} {event : Event}
    {outputs : List Output} (handled : controller.handle event = .ok (after, outputs)) :
    after.destinationLocation = controller.destinationLocation := by
  cases reaction_of_handle handled with
  | swipe direction => rfl
  | tap => rfl
  | frameTaken free => rfl
  | frameIgnored ignored => rfl
  | taskClassified sameBuffers => rfl
  | taskUnclassified sameBuffers => rfl
  | taskEnded => rfl
  | displayBlock => rfl

end VisionViewController

end VisionApp
