import VisionApp.ViewController.VisionViewController

/-!
# One classification at a time

`currentBuffer` is the buffer being classified and, at the same time, the lock
that keeps further frames out. A normally tracked frame takes it when it is free
and queues a task, and the task gives it back when it leaves its scope, however
it does. So the buffer is held exactly while one task, made for it, is queued or
running.
-/

namespace VisionApp.VisionViewController

open EventMachine EventMachine.Machine

/-- A buffer is held exactly while there is a task, which is the only one and made for that
buffer. -/
def Serialized (controller : VisionViewController) : Prop :=
  match controller.currentBuffer with
  | none => controller.visionQueue = []
  | some buffer => ∃ performed, controller.visionQueue = [⟨buffer, performed⟩]

def isTrackedFrame : Event → Bool
  | .sessionDidUpdate _ trackingIsNormal _ => trackingIsNormal
  | _ => false

/-- The frame is accepted and gets a task of its own. -/
def Classifies (controller : VisionViewController) (capturedImage : CVPixelBuffer)
    (orientation : ℕ) : Prop :=
  ∃ after, controller.handle (.sessionDidUpdate capturedImage true orientation) = .ok (after, []) ∧
    after.currentBuffer = some capturedImage ∧ after.visionQueue = [{ buffer := capturedImage }]

namespace Serialized

variable {controller : VisionViewController}

/-- The tasks are those for the buffer held. -/
theorem iff_buffers :
    Serialized controller ↔
      controller.visionQueue.map VisionTask.buffer = controller.currentBuffer.toList := by
  simp only [Serialized]
  cases controller.currentBuffer with
  | none => simp
  | some buffer =>
      rw [Option.toList_some, List.map_eq_singleton_iff]
      constructor
      · rintro ⟨performed, queued⟩
        exact ⟨⟨buffer, performed⟩, queued, rfl⟩
      · rintro ⟨⟨_, performed⟩, queued, rfl⟩
        exact ⟨performed, queued⟩

theorem queue_of_none (serialized : Serialized controller)
    (free : controller.currentBuffer = none) : controller.visionQueue = [] := by
  simpa only [Serialized, free] using serialized

/-- A frame that finds the buffer free gets it, and a task. -/
theorem classifies (serialized : Serialized controller) (free : controller.currentBuffer = none)
    (capturedImage : CVPixelBuffer) {orientation : ℕ}
    (oriented : isImageOrientation orientation = true) :
    Classifies controller capturedImage orientation := by
  refine ⟨{ controller with
    currentBuffer := some capturedImage
    visionQueue := controller.visionQueue ++ [{ buffer := capturedImage }] }, ?_, rfl, ?_⟩
  · simp only [handle, sessionDidUpdate, free, and_self, if_true, classifyCurrentImage, oriented]
    rfl
  · simp [serialized.queue_of_none free]

end Serialized

/-- A tracked frame takes the free buffer and queues a task, a task ends and frees the buffer, or
the buffer and the tasks for it stay. -/
inductive BufferStep (before : VisionViewController) : Event → VisionViewController → Prop where
  | taken {capturedImage : CVPixelBuffer} {orientation : ℕ} {after : VisionViewController}
      (free : before.currentBuffer = none) (held : after.currentBuffer = some capturedImage)
      (queued : after.visionQueue = before.visionQueue ++ [{ buffer := capturedImage }]) :
      BufferStep before (.sessionDidUpdate capturedImage true orientation) after
  | ended {after : VisionViewController} (freed : after.currentBuffer = none)
      (dequeued : after.visionQueue = before.visionQueue.tail) :
      BufferStep before .taskEnded after
  | kept {event : Event} {after : VisionViewController}
      (sameBuffer : after.currentBuffer = before.currentBuffer)
      (sameBuffers : after.visionQueue.map VisionTask.buffer =
        before.visionQueue.map VisionTask.buffer) :
      BufferStep before event after

theorem bufferStep_of_reaction {before after : VisionViewController} {event : Event}
    {outputs : List Output} (reaction : Reaction before event after outputs) :
    BufferStep before event after := by
  cases reaction with
  | frameTaken free => exact .taken free rfl rfl
  | taskEnded => exact .ended rfl rfl
  | taskClassified sameBuffers => exact .kept rfl sameBuffers
  | taskUnclassified sameBuffers => exact .kept rfl sameBuffers
  | frameIgnored ignored => exact .kept rfl rfl
  | swipe direction => exact .kept rfl rfl
  | tap => exact .kept rfl rfl
  | displayBlock => exact .kept rfl rfl

theorem serialized_preserved : machine.Preserved Serialized := by
  intro before event after outputs serialized step
  rw [Serialized.iff_buffers] at serialized ⊢
  cases bufferStep_of_reaction (reaction_of_handle step.2) with
  | taken free held queued =>
      rw [queued, List.map_append, serialized, free, held]
      rfl
  | ended freed dequeued =>
      rw [dequeued, List.map_tail, serialized, freed]
      cases before.currentBuffer with
      | none => rfl
      | some buffer => rfl
  | kept sameBuffer sameBuffers => rw [sameBuffers, serialized, sameBuffer]

/-- Without a tracked frame a free buffer stays free. -/
theorem free_kept {before after : VisionViewController} {event : Event} {outputs : List Output}
    (free : before.currentBuffer = none) (notTracked : isTrackedFrame event = false)
    (step : machine.Step before event after outputs) : after.currentBuffer = none := by
  cases bufferStep_of_reaction (reaction_of_handle step.2) with
  | taken => simp [isTrackedFrame] at notTracked
  | ended freed _ => exact freed
  | kept sameBuffer _ => exact sameBuffer.trans free

theorem free_after_taskEnded {start finish : VisionViewController} {earlier between : List Event}
    (run : machine.Run start (earlier ++ .taskEnded :: between) finish)
    (notTracked : ∀ event ∈ between, isTrackedFrame event = false) :
    finish.currentBuffer = none := by
  rcases run.split rfl with ⟨middle, _, rest⟩
  rcases rest.cons_inv rfl with ⟨ended, outputs, step, laterRun⟩
  have handled : middle.handle .taskEnded = .ok (ended, outputs) := step.2
  simp only [handle, Except.ok.injEq, Prod.mk.injEq] at handled
  rcases handled with ⟨rfl, _⟩
  refine laterRun.guarded (fun _ _ _ _ => free_kept) rfl ?_
  rintro first event later before rfl _ _
  apply notTracked
  simp

/-- The buffer and the tasks stay coupled throughout a run, so no frame fails, and after a task has
ended the next tracked frame is classified. -/
theorem frames_classified {destination : Option LocationModel} {title : Option String}
    {events : List Event} {finish : VisionViewController}
    (run : machine.Run { destinationLocation := destination, title := title } events finish) :
    Serialized finish ∧
      (∀ capturedImage trackingIsNormal orientation, isImageOrientation orientation = true →
        ∃ after, finish.handle (.sessionDidUpdate capturedImage trackingIsNormal orientation) =
          .ok (after, [])) ∧
      ∀ earlier between, events = earlier ++ .taskEnded :: between →
        (∀ event ∈ between, isTrackedFrame event = false) →
          ∀ capturedImage orientation, isImageOrientation orientation = true →
            Classifies finish capturedImage orientation := by
  have initially : Serialized { destinationLocation := destination, title := title } := rfl
  have serialized := run.invariant serialized_preserved initially
  refine ⟨serialized, ?_, ?_⟩
  · intro capturedImage trackingIsNormal orientation oriented
    by_cases accepted : finish.currentBuffer = none ∧ trackingIsNormal = true
    · rcases accepted with ⟨free, rfl⟩
      rcases serialized.classifies free capturedImage oriented with ⟨after, handled, _⟩
      exact ⟨after, handled⟩
    · have ignored : finish.currentBuffer ≠ none ∨ trackingIsNormal = false := by
        cases trackingIsNormal with
        | false => exact Or.inr rfl
        | true => exact Or.inl (fun free => accepted ⟨free, rfl⟩)
      refine ⟨finish, ?_⟩
      simp only [handle, sessionDidUpdate_of_ignored ignored]
      rfl
  · rintro earlier between rfl notTracked capturedImage orientation oriented
    exact serialized.classifies (free_after_taskEnded run notTracked) capturedImage oriented

def failedTask : List Event :=
  [.sessionDidUpdate 7 true 1, .sessionDidUpdate 8 true 1, .taskEnded,
    .sessionDidUpdate 9 false 1]

/-- The frame that comes while the first is classified is dropped; after the task has failed, the
next tracked one is classified. -/
theorem failedTask_next :
    ∃ finish, machine.Run {} failedTask finish ∧ Serialized finish ∧ Classifies finish 10 3 := by
  have run : machine.Run {} failedTask {} := .of_exec rfl
  have classified := frames_classified run
  refine ⟨{}, run, classified.1, ?_⟩
  exact classified.2.2 (failedTask.take 2) (failedTask.drop 3) rfl (by decide) 10 3 rfl

end VisionApp.VisionViewController
