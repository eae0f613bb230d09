import VisionApp.EventMachine.History
import VisionApp.Location.LocationManager

/-!
# The next move

`showRoute` announces the first instruction of a route when the number of steps
differs from `moveCount`, the number of steps of the route announced last. A
route with as many steps is taken for the same route, even when it leads
elsewhere, and even when the lost-fix message was posted in between.
-/

namespace VisionApp.LocationManager

open EventMachine EventMachine.Machine

def firstInstruction (steps : List MKRouteStep) : Option String :=
  (steps.map MKRouteStep.instructions).find? (fun instructions => !instructions.isEmpty)

/-- The response that an event hands to `showRoute`. -/
def response : Event → Option DirectionsResponse
  | .showRoute response => some response
  | .directionsCompleted _ response => response
  | _ => none

def posted : Output → Option String
  | .post nexStep => some nexStep
  | .completion _ => none

def nextMoveMachine :=
  machine.observed (fun lastPost _ _ _ outputs =>
    ((outputs.filterMap posted).getLast?).or lastPost)

/-- A response with one route that has an instruction leaves the first instruction in `nextMove`,
and posts it unless it is what was posted last. -/
def NextMoveLaw (before : LocationManager × Option String) (event : Event) : Prop :=
  ∀ route instruction, response event = some ⟨[route]⟩ →
    firstInstruction route.steps = some instruction →
      ∃ after outputs, before.1.handle event = .ok (after, outputs) ∧
        after.nextMove = instruction ∧
        (before.2 ≠ some instruction → .post instruction ∈ outputs)

/-- The route has another number of steps than `moveCount`, or its first instruction is what was
posted last. -/
def NextMoveNoticed (before : LocationManager × Option String) (event : Event) : Prop :=
  ∀ route instruction, response event = some ⟨[route]⟩ →
    firstInstruction route.steps = some instruction →
      before.1.moveCount ≠ route.steps.length ∨ before.2 = some instruction

theorem scanSteps_of_nonempty {audioMessage : String} (notEmpty : audioMessage.isEmpty = false)
    (remaining : List MKRouteStep) (counter : ℕ) :
    scanSteps remaining counter audioMessage = .ok (counter, audioMessage) := by
  rw [scanSteps.eq_def]
  simp [notEmpty]

theorem scanSteps_firstInstruction {steps : List MKRouteStep} {audioMessage instruction : String}
    (isEmpty : audioMessage.isEmpty = true)
    (found : firstInstruction steps = some instruction) (counter : ℕ) :
    ∃ finish, scanSteps steps counter audioMessage = .ok (finish, instruction) := by
  induction steps generalizing counter audioMessage with
  | nil => simp [firstInstruction] at found
  | cons step steps ih =>
      rw [scanSteps.eq_def]
      simp only [isEmpty, if_true]
      cases stepEmpty : step.instructions.isEmpty with
      | true =>
          apply ih stepEmpty
          simpa [firstInstruction, stepEmpty] using found
      | false =>
          rw [scanSteps_of_nonempty stepEmpty]
          simp only [firstInstruction, List.map_cons, List.find?_cons, stepEmpty, Bool.not_false,
            Option.some.injEq] at found
          exact ⟨counter + 1, by rw [found]⟩

/-- A single route is announced when its number of steps differs from `moveCount`, and has no effect
otherwise. -/
theorem showRoute_single {manager : LocationManager} {route : MKRoute} {instruction : String}
    (found : firstInstruction route.steps = some instruction) :
    manager.showRoute ⟨[route]⟩ =
      .ok (if manager.moveCount ≠ route.steps.length then
        ({ manager with moveCount := route.steps.length, nextMove := instruction }, [instruction])
      else (manager, [])) := by
  have isEmpty : "".isEmpty = true := rfl
  rcases scanSteps_firstInstruction isEmpty found 0 with ⟨finish, scanned⟩
  simp only [showRoute, showRoutes, List.drop_zero, scanned]
  split
  · rfl
  · rfl

theorem nextMove_showRoutes {routes : List MKRoute} {counter : ℕ} {audioMessage : String}
    {manager after : LocationManager} {messages : List String}
    (showed : showRoutes routes counter audioMessage manager = .ok (after, messages)) :
    after.nextMove = messages.getLast?.getD manager.nextMove := by
  induction routes generalizing counter audioMessage manager messages with
  | nil =>
      simp only [showRoutes, Except.ok.injEq, Prod.mk.injEq] at showed
      rcases showed with ⟨rfl, rfl⟩
      rfl
  | cons route routes ih =>
      simp only [showRoutes] at showed
      split at showed
      · split at showed
        · simp at showed
        · split at showed
          · simp at showed
          · rename_i rest
            simp only [Except.ok.injEq, Prod.mk.injEq] at showed
            rcases showed with ⟨rfl, rfl⟩
            rw [ih rest, List.getLast?_cons]
            rfl
      · exact ih showed

theorem posted_post (messages : List String) :
    (messages.map Output.post).filterMap posted = messages := by
  simp [posted, Function.comp_def]

/-- A step leaves in `nextMove` what it posts last, if it posts anything. -/
theorem nextMove_handle {before after : LocationManager} {event : Event} {outputs : List Output}
    (handled : before.handle event = .ok (after, outputs)) :
    after.nextMove = ((outputs.filterMap posted).getLast?).getD before.nextMove := by
  cases reaction_of_handle handled with
  | didUpdateLocations updated =>
      rcases didUpdateLocations_frame updated with ⟨location, _, count, _, rfl⟩
      rfl
  | visionWillAppear controller =>
      rcases visionWillAppear_frame before controller with ⟨_, _, frame⟩
      rw [frame]
      rfl
  | showRoute showed =>
      rw [posted_post]
      exact nextMove_showRoutes showed
  | directionsAnswered showed =>
      have announced := nextMove_showRoutes showed
      rw [posted_post]
      exact announced
  | @geocoded _ _ _ location answered =>
      have nothingPosted : (location.map Output.completion).toList.filterMap posted = [] := by
        cases location with
        | none => rfl
        | some address => rfl
      rcases geocoded_frame answered with ⟨addressString, rfl⟩
      rw [nothingPosted]
      rfl
  | didFailWithError => rfl
  | setDestinationCoordinate newValue => rfl
  | takeMeThere => rfl
  | initRoute => rfl
  | directionsFailed index => rfl
  | getUserLocatoin => rfl

theorem lastPost_preserved : nextMoveMachine.Preserved (fun state =>
    ∀ lastPost, state.2 = some lastPost → state.1.nextMove = lastPost) := by
  apply observed_preserved
  intro before history event after outputs holds step lastPost recorded
  rw [nextMove_handle step.2]
  simp only at recorded
  cases latest : (outputs.filterMap posted).getLast? with
  | none =>
      rw [latest] at recorded
      exact holds lastPost recorded
  | some nexStep =>
      rw [latest] at recorded
      exact Option.some.inj recorded

theorem handle_single (before : LocationManager) {event : Event} {route : MKRoute}
    {instruction : String} (single : response event = some ⟨[route]⟩)
    (found : firstInstruction route.steps = some instruction) :
    ∃ after outputs, before.handle event = .ok (after, outputs) ∧
      if before.moveCount ≠ route.steps.length then
        after.nextMove = instruction ∧ outputs = [.post instruction]
      else after.nextMove = before.nextMove ∧ outputs = [] := by
  cases event with
  | showRoute routeResponse =>
      rcases Option.some.inj single with rfl
      simp only [handle, showRoute_single found]
      split
      · exact ⟨_, _, rfl, rfl, rfl⟩
      · exact ⟨_, _, rfl, rfl, rfl⟩
  | directionsCompleted index routeResponse =>
      simp only [response] at single
      subst single
      simp only [handle, showRoute_single found]
      split
      · exact ⟨_, _, rfl, rfl, rfl⟩
      · exact ⟨_, _, rfl, rfl, rfl⟩
  | _ => simp [response] at single

theorem nextMoveLaw_iff {before : LocationManager × Option String} {event : Event}
    (latest : ∀ lastPost, before.2 = some lastPost → before.1.nextMove = lastPost) :
    NextMoveLaw before event ↔ NextMoveNoticed before event := by
  constructor
  · intro law route instruction single found
    by_cases isNew : before.1.moveCount ≠ route.steps.length
    · exact Or.inl isNew
    · right
      by_contra differs
      rcases law route instruction single found with ⟨after, outputs, handled, _, announced⟩
      rcases handle_single before.1 single found with
        ⟨after', outputs', handled', effect⟩
      rw [if_neg isNew] at effect
      rw [handled'] at handled
      simp only [Except.ok.injEq, Prod.mk.injEq] at handled
      have announcedNothing := announced differs
      rw [← handled.2, effect.2] at announcedNothing
      simp at announcedNothing
  · intro noticed route instruction single found
    rcases handle_single before.1 single found with ⟨after, outputs, handled, effect⟩
    refine ⟨after, outputs, handled, ?_⟩
    by_cases isNew : before.1.moveCount ≠ route.steps.length
    · rw [if_pos isNew] at effect
      refine ⟨effect.1, ?_⟩
      intro _
      simp [effect.2]
    · rw [if_neg isNew] at effect
      rcases noticed route instruction single found with differs | already
      · exact absurd differs isNew
      · refine ⟨effect.1.trans (latest instruction already), ?_⟩
        intro differs
        exact absurd already differs

/-- Every single route of a run ends up announced exactly when each has another number of steps
than the route announced before, or begins with what was posted last. -/
theorem nextMove_iff_noticed (events : List Event) :
    nextMoveMachine.Always NextMoveLaw ({}, none) events ↔
      nextMoveMachine.Always NextMoveNoticed ({}, none) events := by
  apply Always.congr
  rintro before event reached _
  apply nextMoveLaw_iff
  apply reached.invariant lastPost_preserved
  intro lastPost recorded
  simp at recorded

def lostFix : List Event :=
  [.showRoute ⟨[⟨[⟨"Turn left"⟩]⟩]⟩, .didFailWithError, .showRoute ⟨[⟨[⟨"Turn left"⟩]⟩]⟩]

/-- The instruction is not announced again; `nextMove` still says that the fix is lost. -/
theorem lostFix_unnoticed :
    (∃ finish, machine.Run {} lostFix finish ∧ finish.nextMove = lostMessage) ∧
      ¬nextMoveMachine.Always NextMoveLaw ({}, none) lostFix := by
  refine ⟨⟨_, .of_exec rfl, rfl⟩, ?_⟩
  apply Always.not_of_exec (lostFix.take 2) [] rfl rfl
  intro law
  rcases law ⟨[⟨"Turn left"⟩]⟩ "Turn left" rfl (by decide) with ⟨after, outputs, handled, kept, _⟩
  have unchanged : after.nextMove = lostMessage := by
    rcases Except.ok.inj handled with ⟨rfl, _⟩
    rfl
  rw [unchanged] at kept
  exact absurd kept (by decide)

end VisionApp.LocationManager
