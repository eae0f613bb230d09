import VisionApp.EventMachine.Dispatch
import VisionApp.EventMachine.History
import VisionApp.ViewController.VisionViewController

/-!
# Whose result is announced

`processClassifications` leaves its result in two fields and posts a block that
reads them. The pixel buffer is given back before the block has run. When frames
are waiting on the main queue in front of the block, the next one can be taken
and classified first, and the block reads the later result. The later result is
then announced twice and the earlier one not at all.
-/

namespace VisionApp.VisionViewController

open EventMachine EventMachine.Machine

def onVisionQueue : Event → Bool
  | .taskPerformed _ _ | .taskEnded => true
  | _ => false

def postsBlock : Event → Bool
  | .taskPerformed (some _) _ => true
  | _ => false

/-- The main queue serves frames, gestures and the blocks of `processClassifications`. -/
def mainQueue : Dispatch machine where
  inBackground := onVisionQueue
  block := .displayBlock
  posts := postsBlock
  pending := displayBlocks
  block_served := rfl
  posts_inBackground := by
    intro event posts
    cases event with
    | taskPerformed results error => rfl
    | _ => simp [postsBlock] at posts
  pending_of_enabled := by
    intro controller isEnabled
    exact of_decide_eq_true isEnabled
  pending_handle := by
    intro before event after outputs handled
    cases reaction_of_handle handled with
    | swipe direction => rfl
    | tap => rfl
    | frameTaken free => rfl
    | frameIgnored ignored => rfl
    | taskClassified sameBuffers => rfl
    | taskUnclassified sameBuffers => rfl
    | taskEnded => rfl
    | displayBlock => rfl

structure ResultHistory where
  /-- What the calls of `processClassifications` that posted a block wrote, in their order. -/
  results : List (String × ℚ) := []
  /-- The number of blocks that ran. -/
  displayed : ℕ := 0
  /-- What the blocks asked for. -/
  announced : List Output := []
deriving DecidableEq, Repr

def ResultHistory.observe (history : ResultHistory) (outputs : List Output) :
    Event → ResultHistory
  | .taskPerformed (some classifications) _ =>
      { history with results := history.results ++ [bestClassification classifications] }
  | .displayBlock =>
      { history with
        displayed := history.displayed + 1
        announced := history.announced ++ outputs }
  | _ => history

def resultMachine :=
  machine.observed (fun history _ event _ outputs => ResultHistory.observe history outputs event)

/-- The block that runs reads the result of its own call. -/
def ReadsOwn (before : VisionViewController × ResultHistory) (event : Event) : Prop :=
  event = .displayBlock →
    before.2.results[before.2.displayed]? =
      some (before.1.identifierString, before.1.confidence)

/-- The result of every call whose block has not run is in the fields. -/
def KeepsPending (state : VisionViewController × ResultHistory) : Prop :=
  ∀ result ∈ state.2.results.drop state.2.displayed,
    result = (state.1.identifierString, state.1.confidence)

/-- A block reads its own result, and no step overwrites one that a pending block has to read. -/
def ResultLaw (before : VisionViewController × ResultHistory) (event : Event) : Prop :=
  ReadsOwn before event ∧
    ∀ after outputs, resultMachine.Step before event after outputs → KeepsPending after

def announcement (result : String × ℚ) : Option Output :=
  if result.1.isEmpty then none
  else some (.voiceOutput ("Detected " ++ result.1) .voiceCommandInfo)

/-- The objects detected by the calls whose blocks ran are announced, each once and in order. -/
def AnnouncesResults (state : VisionViewController × ResultHistory) : Prop :=
  state.2.announced = (state.2.results.take state.2.displayed).filterMap announcement

/-- While a block is pending, only classifications with the label and confidence that the fields
hold are processed. -/
def ResultCondition (before : VisionViewController × ResultHistory) : Event → Prop
  | .taskPerformed (some classifications) _ =>
      before.1.displayBlocks = 0 ∨
        bestClassification classifications = (before.1.identifierString, before.1.confidence)
  | _ => True

/-- Every result has a block, pending or run. -/
def Counted (state : VisionViewController × ResultHistory) : Prop :=
  state.2.results.length = state.2.displayed + state.1.displayBlocks

theorem counted_of_reaction {before after : VisionViewController} {history : ResultHistory}
    {event : Event} {outputs : List Output} (counted : Counted (before, history))
    (isEnabled : before.enabled event = true) (reaction : Reaction before event after outputs) :
    Counted (after, history.observe outputs event) := by
  simp only [Counted] at counted
  cases reaction with
  | taskClassified sameBuffers =>
      simp only [Counted, ResultHistory.observe, List.length_append, List.length_singleton]
      omega
  | displayBlock =>
      have pending : 0 < before.displayBlocks := of_decide_eq_true isEnabled
      simp only [Counted, ResultHistory.observe]
      omega
  | swipe direction => exact counted
  | tap => exact counted
  | frameTaken free => exact counted
  | frameIgnored ignored => exact counted
  | taskUnclassified sameBuffers => exact counted
  | taskEnded => exact counted

theorem counted_preserved : resultMachine.Preserved Counted := by
  apply observed_preserved
  intro before history event after outputs counted step
  exact counted_of_reaction counted step.1 (reaction_of_handle step.2)

theorem readsOwn_of_keepsPending {before : VisionViewController × ResultHistory} {event : Event}
    (counted : Counted before) (keeps : KeepsPending before)
    (isEnabled : before.1.enabled event = true) : ReadsOwn before event := by
  rintro rfl
  have pending : 0 < before.1.displayBlocks := of_decide_eq_true isEnabled
  have bound : before.2.displayed < before.2.results.length := by
    simp only [Counted] at counted
    omega
  have isPending : before.2.results[before.2.displayed] ∈
      before.2.results.drop before.2.displayed := by
    rw [List.drop_eq_getElem_cons bound]
    exact List.mem_cons_self
  rw [List.getElem?_eq_getElem bound, keeps _ isPending]

/-- A new result leaves the pending ones in the fields exactly if there are none, or it is the same
as they are. -/
theorem keepsPending_classified {before after : VisionViewController × ResultHistory}
    {best : String × ℚ} (counted : Counted before) (keeps : KeepsPending before)
    (appended : after.2.results = before.2.results ++ [best])
    (sameDisplayed : after.2.displayed = before.2.displayed)
    (written : (after.1.identifierString, after.1.confidence) = best) :
    KeepsPending after ↔
      before.1.displayBlocks = 0 ∨
        best = (before.1.identifierString, before.1.confidence) := by
  have bound : before.2.displayed ≤ before.2.results.length := by
    simp only [Counted] at counted
    omega
  have waiting : (before.2.results.drop before.2.displayed).length = before.1.displayBlocks := by
    simp only [Counted] at counted
    rw [List.length_drop]
    omega
  simp only [KeepsPending, appended, sameDisplayed, written, List.drop_append_of_le_length bound]
  constructor
  · intro keepsAfter
    cases queued : before.2.results.drop before.2.displayed with
    | nil =>
        rw [queued] at waiting
        exact Or.inl waiting.symm
    | cons oldest rest =>
        right
        rw [← keeps oldest (by simp [queued]), keepsAfter oldest (by simp [queued])]
  · intro met result resultMem
    rcases List.mem_append.mp resultMem with old | new
    · rcases met with none | same
      · rw [none, List.length_eq_zero_iff] at waiting
        simp [waiting] at old
      · rw [same, keeps result old]
    · exact List.mem_singleton.mp new

/-- Every other step leaves the fields alone, and pends no more blocks. -/
theorem keepsPending_of_reaction {before after : VisionViewController} {history : ResultHistory}
    {event : Event} {outputs : List Output} (keeps : KeepsPending (before, history))
    (unclassified : postsBlock event = false) (reaction : Reaction before event after outputs) :
    KeepsPending (after, history.observe outputs event) := by
  cases reaction with
  | taskClassified sameBuffers => simp [postsBlock] at unclassified
  | displayBlock =>
      intro result resultMem
      apply keeps result
      simp only [ResultHistory.observe] at resultMem
      rw [← List.drop_drop] at resultMem
      exact List.mem_of_mem_drop resultMem
  | swipe direction => exact keeps
  | tap => exact keeps
  | frameTaken free => exact keeps
  | frameIgnored ignored => exact keeps
  | taskUnclassified sameBuffers => exact keeps
  | taskEnded => exact keeps

/-- Classifications are processed without a fault, and leave the best one in the fields. -/
theorem handle_classified (controller : VisionViewController)
    (classifications : List VNClassificationObservation) (error : Option String) :
    ∃ after, controller.handle (.taskPerformed (some classifications) error) = .ok (after, []) ∧
      (after.identifierString, after.confidence) = bestClassification classifications := by
  simp only [handle, performTask, processClassifications]
  cases controller.visionQueue with
  | nil => exact ⟨_, rfl, rfl⟩
  | cons task rest => exact ⟨_, rfl, rfl⟩

theorem resultLaw_classified {before : VisionViewController × ResultHistory}
    {classifications : List VNClassificationObservation} {error : Option String}
    (counted : Counted before) (keeps : KeepsPending before)
    (isEnabled : before.1.enabled (.taskPerformed (some classifications) error) = true) :
    ResultLaw before (.taskPerformed (some classifications) error) ↔
      before.1.displayBlocks = 0 ∨
        bestClassification classifications = (before.1.identifierString, before.1.confidence) := by
  rcases handle_classified before.1 classifications error with ⟨after, handled, written⟩
  have step : resultMachine.Step before (.taskPerformed (some classifications) error)
      (after, before.2.observe [] (.taskPerformed (some classifications) error)) [] :=
    observed_step_iff.mpr ⟨⟨isEnabled, handled⟩, rfl⟩
  have keepsAfter_iff : KeepsPending
      (after, before.2.observe [] (.taskPerformed (some classifications) error)) ↔ _ :=
    keepsPending_classified counted keeps rfl rfl written
  rw [← keepsAfter_iff]
  constructor
  · rintro ⟨_, keepsAfter⟩
    exact keepsAfter _ _ step
  · intro keepsAfter
    refine ⟨by simp [ReadsOwn], ?_⟩
    intro reached outputs reachedStep
    rw [(reachedStep.deterministic step).1]
    exact keepsAfter

theorem resultLaw_iff {before : VisionViewController × ResultHistory} {event : Event}
    (counted : Counted before) (keeps : KeepsPending before)
    (isEnabled : before.1.enabled event = true) :
    ResultLaw before event ↔ ResultCondition before event := by
  have lawful (unclassified : postsBlock event = false) : ResultLaw before event := by
    refine ⟨readsOwn_of_keepsPending counted keeps isEnabled, ?_⟩
    intro after outputs step
    apply observed_kept step
    intro machineStep
    exact keepsPending_of_reaction keeps unclassified (reaction_of_handle machineStep.2)
  cases event with
  | taskPerformed results error =>
      cases results with
      | none => exact iff_of_true (lawful rfl) trivial
      | some classifications => exact resultLaw_classified counted keeps isEnabled
  | _ => exact iff_of_true (lawful rfl) trivial

theorem announcement_eq (controller : VisionViewController) :
    controller.displayClassifierResults.map (fun message =>
      Output.voiceOutput message .voiceCommandInfo) =
        announcement (controller.identifierString, controller.confidence) := by
  simp only [displayClassifierResults, announcement]
  split
  · rfl
  · rfl

/-- A block that reads its own result announces the next object. -/
theorem announcesResults_of_reaction {before after : VisionViewController}
    {history : ResultHistory} {event : Event} {outputs : List Output}
    (counted : Counted (before, history)) (announces : AnnouncesResults (before, history))
    (reads : ReadsOwn (before, history) event)
    (reaction : Reaction before event after outputs) :
    AnnouncesResults (after, history.observe outputs event) := by
  cases reaction with
  | displayBlock =>
      have own := reads rfl
      simp only [AnnouncesResults, ResultHistory.observe] at announces own ⊢
      rw [List.take_add_one, own, List.filterMap_append, ← announces, announcement_eq]
      cases announced : announcement (before.identifierString, before.confidence) with
      | none => simp [announced]
      | some output => simp [announced]
  | taskClassified sameBuffers =>
      have bound : history.displayed ≤ history.results.length := by
        simp only [Counted] at counted
        omega
      simp only [AnnouncesResults, ResultHistory.observe, List.take_append_of_le_length bound]
      exact announces
  | swipe direction => exact announces
  | tap => exact announces
  | frameTaken free => exact announces
  | frameIgnored ignored => exact announces
  | taskUnclassified sameBuffers => exact announces
  | taskEnded => exact announces

theorem announced_kept {before after : VisionViewController × ResultHistory} {event : Event}
    {outputs : List Output} (announced : Counted before ∧ AnnouncesResults before)
    (law : ResultLaw before event) (step : resultMachine.Step before event after outputs) :
    Counted after ∧ AnnouncesResults after := by
  refine ⟨counted_preserved before event after outputs announced.1 step, ?_⟩
  apply observed_kept step
  intro machineStep
  exact announcesResults_of_reaction announced.1 announced.2 law.1
    (reaction_of_handle machineStep.2)

theorem resultLaw_iff_condition (destination : Option LocationModel) (title : Option String)
    (events : List Event) :
    resultMachine.Always ResultLaw ({ destinationLocation := destination, title := title }, {})
        events ↔
      resultMachine.Always ResultCondition
        ({ destinationLocation := destination, title := title }, {}) events := by
  have kept : ∀ before event after outputs, Counted before ∧ KeepsPending before →
      ResultLaw before event → resultMachine.Step before event after outputs →
        Counted after ∧ KeepsPending after := by
    rintro before event after outputs ⟨counted, _⟩ law step
    exact ⟨counted_preserved before event after outputs counted step, law.2 after outputs step⟩
  apply Always.iff_of_kept kept
  · rintro before event ⟨counted, keeps⟩ isEnabled
    exact resultLaw_iff counted keeps isEnabled
  · exact ⟨rfl, by simp [KeepsPending]⟩

/-- Every block reads its own result, none is overwritten before, and the detected objects are
announced once each, exactly when no result but the pending one is processed while a block is
pending. The runs of the screen are those in which the main queue serves what arrives in order. -/
theorem results_iff_condition (destination : Option LocationModel) (title : Option String)
    (events : List Event) :
    ((resultMachine.Always ResultLaw ({ destinationLocation := destination, title := title }, {})
        events ∧
      ∀ finish, resultMachine.Run ({ destinationLocation := destination, title := title }, {})
        events finish → AnnouncesResults finish) ↔
      resultMachine.Always ResultCondition
        ({ destinationLocation := destination, title := title }, {}) events) ∧
      ∀ finish, machine.Run { destinationLocation := destination, title := title } events finish ↔
        ∃ schedule queue,
          mainQueue.queued.Run
            { state := { destinationLocation := destination, title := title }, queue := [] }
            schedule { state := finish, queue := queue } ∧
          schedule.filterMap Dispatched.ran = events := by
  refine ⟨?_, fun finish => mainQueue.run_iff_dispatched rfl⟩
  rw [← resultLaw_iff_condition]
  constructor
  · rintro ⟨lawful, _⟩
    exact lawful
  · intro lawful
    refine ⟨lawful, ?_⟩
    intro finish run
    have initially : Counted ({ destinationLocation := destination, title := title }, {}) ∧
        AnnouncesResults ({ destinationLocation := destination, title := title }, {}) := ⟨rfl, rfl⟩
    exact (run.guarded (fun _ _ _ _ => announced_kept) initially lawful).2

def streetSign : List VNClassificationObservation :=
  [⟨"street sign, signboard", 1⟩]

def bench : List VNClassificationObservation :=
  [⟨"park bench", 1⟩]

/-- Two frames are classified before the block for the first has run. -/
def overtaken (second : List VNClassificationObservation) : List Event :=
  [.sessionDidUpdate 1 true 1, .taskPerformed (some streetSign) none, .taskEnded,
    .sessionDidUpdate 2 true 1, .taskPerformed (some second) none, .taskEnded, .displayBlock,
    .displayBlock]

/-- Both frames are captured before the first is classified. -/
def captured (second : List VNClassificationObservation) : List (Dispatched Event) :=
  .arrive (.sessionDidUpdate 1 true 1) :: .arrive (.sessionDidUpdate 2 true 1) ::
    (overtaken second).map Dispatched.run

/-- The second result overwrites the sign, whose block is pending. In the end the bench is announced
twice, or nothing at all, although the main queue serves the frames and the blocks in order. -/
theorem streetSign_lost :
    ((∃ finish, resultMachine.Run ({}, {}) (overtaken bench) finish ∧
      finish.2.announced = [.voiceOutput "Detected park bench" .voiceCommandInfo,
        .voiceOutput "Detected park bench" .voiceCommandInfo]) ∧
      (∃ finish, mainQueue.queued.Run { state := {}, queue := [] } (captured bench) finish) ∧
      ¬resultMachine.Always ResultLaw ({}, {}) ((overtaken bench).take 5)) ∧
      ((∃ finish, resultMachine.Run ({}, {}) (overtaken []) finish ∧
        finish.2.announced = []) ∧
        (∃ finish, mainQueue.queued.Run { state := {}, queue := [] } (captured []) finish) ∧
        ¬resultMachine.Always ResultLaw ({}, {}) ((overtaken []).take 5)) := by
  refine ⟨⟨⟨_, .of_exec rfl, by decide +kernel⟩, ⟨_, .of_exec rfl⟩, ?_⟩,
    ⟨_, .of_exec rfl, by decide +kernel⟩, ⟨_, .of_exec rfl⟩, ?_⟩
  · apply Always.not_of_exec ((overtaken bench).take 4) [] rfl rfl
    intro law
    exact absurd (law.2 _ _ ⟨rfl, rfl⟩ ("street sign", 1) (by decide +kernel)) (by decide +kernel)
  · apply Always.not_of_exec ((overtaken []).take 4) [] rfl rfl
    intro law
    exact absurd (law.2 _ _ ⟨rfl, rfl⟩ ("street sign", 1) (by decide +kernel)) (by decide +kernel)

end VisionApp.VisionViewController
