import VisionApp.EventMachine.Basic

/-!
# Components of a machine

A machine is often made of parts that have machines of their own. An event of
the whole may be a callback of one part, and while it is handled the parts call
each other. A part is a component of the whole when every step of the whole is a
run of the part, in which the callbacks are those of the whole and everything
else is a call.

Then every run of the whole is a run of the part with the same callbacks in the
same order, and what only the callbacks decide can be read off the run of the
whole.
-/

namespace EventMachine

universe u

variable {State Event Output Fault PartState PartEvent PartOutput PartFault : Type u}

/-- The part gets from `before` to `after` by calls of other parts alone. -/
def Called (part : Machine PartState PartEvent PartOutput PartFault) (isCall : PartEvent → Bool)
    (before after : PartState) : Prop :=
  ∃ events, part.Run before events after ∧ ∀ event ∈ events, isCall event = true

namespace Called

variable {part : Machine PartState PartEvent PartOutput PartFault} {isCall : PartEvent → Bool}
  {before middle after : PartState}

theorem refl : Called part isCall before before :=
  ⟨[], .refl, by simp⟩

theorem single (event : PartEvent) {outputs : List PartOutput} (called : isCall event = true)
    (step : part.Step before event after outputs) : Called part isCall before after :=
  ⟨[event], .single step, by simp [called]⟩

theorem trans (first : Called part isCall before middle)
    (second : Called part isCall middle after) : Called part isCall before after := by
  rcases first with ⟨firstEvents, firstRun, firstCalls⟩
  rcases second with ⟨secondEvents, secondRun, secondCalls⟩
  refine ⟨firstEvents ++ secondEvents, firstRun.trans secondRun, ?_⟩
  intro event eventMem
  rcases List.mem_append.mp eventMem with inFirst | inSecond
  · exact firstCalls event inFirst
  · exact secondCalls event inSecond

/-- A callback and the calls after it. -/
theorem after_callback {event : PartEvent} {outputs : List PartOutput}
    (notCall : isCall event = false) (step : part.Step before event middle outputs)
    (calls : Called part isCall middle after) :
    ∃ events, part.Run before events after ∧
      events.filter (fun event => !isCall event) = [event] := by
  rcases calls with ⟨events, run, areCalls⟩
  refine ⟨event :: events, .cons step run, ?_⟩
  rw [List.filter_cons_of_pos (by simp [notCall]), List.cons_inj_right, List.filter_eq_nil_iff]
  intro other otherMem
  simp [areCalls other otherMem]

theorem without_callback (calls : Called part isCall before after) :
    ∃ events, part.Run before events after ∧
      events.filter (fun event => !isCall event) = [] := by
  rcases calls with ⟨events, run, areCalls⟩
  refine ⟨events, run, ?_⟩
  rw [List.filter_eq_nil_iff]
  intro other otherMem
  simp [areCalls other otherMem]

end Called

/-- A part of `whole`, which starts in `start`. -/
structure Component (whole : Machine State Event Output Fault)
    (part : Machine PartState PartEvent PartOutput PartFault) (start : State) where
  view : State → PartState
  /-- The callback that an event of the whole is for the part, if it is one. -/
  callback : Event → Option PartEvent
  /-- The events that only happen to the part when another part calls it. -/
  isCall : PartEvent → Bool
  follows : ∀ before event after outputs, whole.Reachable start before →
    whole.Step before event after outputs →
      ∃ events, part.Run (view before) events (view after) ∧
        events.filter (fun event => !isCall event) = (callback event).toList

namespace Component

variable {whole : Machine State Event Output Fault}
  {part : Machine PartState PartEvent PartOutput PartFault} {start finish : State}

/-- A run of the whole is a run of the part, with the same callbacks in the same order. -/
theorem run (component : Component whole part start) {events : List Event}
    (wholeRun : whole.Run start events finish) :
    ∃ partEvents,
      part.Run (component.view start) partEvents (component.view finish) ∧
        partEvents.filter (fun event => !component.isCall event) =
          events.filterMap component.callback := by
  induction wholeRun with
  | refl => exact ⟨[], .refl, rfl⟩
  | snoc earlier step ih =>
      rcases ih with ⟨earlierEvents, earlierRun, earlierCallbacks⟩
      rcases component.follows _ _ _ _ earlier.reachable step with ⟨events, lastRun, callbacks⟩
      refine ⟨earlierEvents ++ events, earlierRun.trans lastRun, ?_⟩
      rw [List.filter_append, earlierCallbacks, callbacks, List.filterMap_append]
      rfl

/-- What holds of every state that the part can reach by itself holds inside the whole. -/
theorem reachable (component : Component whole part start)
    (reached : whole.Reachable start finish) :
    part.Reachable (component.view start) (component.view finish) := by
  rcases reached with ⟨events, wholeRun⟩
  rcases component.run wholeRun with ⟨partEvents, partRun, _⟩
  exact ⟨partEvents, partRun⟩

/-- A callback happens to the part as often as it happens to the whole. -/
theorem countP_callbacks (component : Component whole part start) {events : List Event}
    {partEvents : List PartEvent}
    (callbacks : partEvents.filter (fun event => !component.isCall event) =
      events.filterMap component.callback)
    {chosen : PartEvent → Bool}
    (notCall : ∀ event, chosen event = true → component.isCall event = false) :
    partEvents.countP chosen = events.countP (fun event =>
      (component.callback event).any chosen) := by
  have onCallbacks : partEvents.countP chosen =
      (partEvents.filter (fun event => !component.isCall event)).countP chosen := by
    rw [List.countP_filter]
    apply List.countP_congr
    intro event _
    simp only [Bool.and_eq_true, Bool.not_eq_true', iff_self_and]
    exact notCall event
  rw [onCallbacks, callbacks, List.countP_filterMap]
  apply List.countP_congr
  intro event _
  cases component.callback event <;> rfl

/-- What is read off the callbacks of the part can be read off the events of the whole. -/
theorem filterMap_callbacks (component : Component whole part start) {events : List Event}
    {partEvents : List PartEvent}
    (callbacks : partEvents.filter (fun event => !component.isCall event) =
      events.filterMap component.callback)
    {Value : Type u} {read : PartEvent → Option Value}
    (notCall : ∀ event, component.isCall event = true → read event = none) :
    partEvents.filterMap read = events.filterMap (fun event =>
      (component.callback event).bind read) := by
  have onCallbacks : partEvents.filterMap read =
      (partEvents.filter (fun event => !component.isCall event)).filterMap read := by
    rw [List.filterMap_filter]
    apply List.filterMap_congr
    intro event _
    cases called : component.isCall event with
    | false => simp
    | true => simp [notCall event called]
  rw [onCallbacks, callbacks, List.filterMap_filterMap]

end Component

end EventMachine
