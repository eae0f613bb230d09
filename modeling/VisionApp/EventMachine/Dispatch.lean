import VisionApp.EventMachine.Basic

/-!
# Events served by a queue

A serial queue serves most events of a machine in the order in which they are
put there, and the others happen in the background. The environment puts its
events on the queue when it likes, and some background events leave a block
there. The machine by itself only says when an event is served. This loses
nothing: an event that is served before a block may have been waiting since
before the block was posted. So the machine has the same runs with its queue as
without it.
-/

namespace EventMachine.Machine

universe u v w x

variable {State : Type u} {Event : Type v} {Output : Type w} {Fault : Type x}

/-- How the events of a machine are dispatched: which are not served by the queue, which one is the
block that background events post, and how many blocks a state has pending. -/
structure Dispatch (machine : Machine State Event Output Fault) [DecidableEq Event] where
  inBackground : Event → Bool
  block : Event
  posts : Event → Bool
  pending : State → ℕ
  block_served : inBackground block = false
  posts_inBackground : ∀ event, posts event = true → inBackground event = true
  pending_of_enabled : ∀ state, machine.enabled state block = true → 0 < pending state
  pending_handle : ∀ before event after outputs,
    machine.handle before event = .ok (after, outputs) →
      pending after =
        pending before - (if event = block then 1 else 0) + if posts event then 1 else 0

/-- A state with the events that wait to be served, the next one first. -/
structure Queued (State : Type u) (Event : Type v) where
  state : State
  queue : List Event

inductive Dispatched (Event : Type v) where
  | arrive (event : Event)
  | run (event : Event)

/-- The event of the machine that is run. -/
def Dispatched.ran : Dispatched Event → Option Event
  | .arrive _ => none
  | .run event => some event

theorem Dispatched.ran_arrivals (arrivals : List Event) :
    (arrivals.map Dispatched.arrive).filterMap Dispatched.ran = [] := by
  induction arrivals with
  | nil => rfl
  | cons event arrivals ih => exact ih

namespace Dispatch

variable [DecidableEq Event] {machine : Machine State Event Output Fault}

/-- The environment puts any events on the queue but blocks. -/
def arrives (dispatch : Dispatch machine) (event : Event) : Bool :=
  !dispatch.inBackground event && event ≠ dispatch.block

/-- The machine with its queue. -/
def queued (dispatch : Dispatch machine) :
    Machine (Queued State Event) (Dispatched Event) Output Fault where
  enabled before
    | .arrive event => dispatch.arrives event
    | .run event =>
        (dispatch.inBackground event || before.queue.head? = some event) &&
          machine.enabled before.state event
  handle before
    | .arrive event => .ok ({ before with queue := before.queue ++ [event] }, [])
    | .run event =>
        match machine.handle before.state event with
        | .ok (after, outputs) =>
            let left := if dispatch.inBackground event then before.queue else before.queue.tail
            let posted := if dispatch.posts event then [dispatch.block] else []
            .ok ({ state := after, queue := left ++ posted }, outputs)
        | .error fault => .error fault

variable {dispatch : Dispatch machine}

theorem run_step (dispatch : Dispatch machine) (queue : List Event) {before after : State}
    {event : Event} {outputs : List Output} (step : machine.Step before event after outputs)
    (served : dispatch.inBackground event = true ∨ queue.head? = some event) :
    dispatch.queued.Step { state := before, queue := queue } (.run event)
      { state := after
        queue := (if dispatch.inBackground event then queue else queue.tail) ++
          if dispatch.posts event then [dispatch.block] else [] } outputs := by
  constructor
  · simp only [queued, step.1, Bool.and_true, Bool.or_eq_true, decide_eq_true_eq]
    exact served
  · simp only [queued, step.2]

/-- Arrivals only lengthen the queue. -/
theorem arrivals_run (state : State) (queue : List Event) {arrivals : List Event}
    (arrive : ∀ event ∈ arrivals, dispatch.arrives event = true) :
    dispatch.queued.Run { state := state, queue := queue } (arrivals.map Dispatched.arrive)
      { state := state, queue := queue ++ arrivals } := by
  induction arrivals generalizing queue with
  | nil =>
      rw [List.append_nil]
      exact .refl
  | cons event arrivals ih =>
      have arrived : dispatch.queued.Step { state := state, queue := queue } (.arrive event)
          { state := state, queue := queue ++ [event] } [] :=
        ⟨arrive event List.mem_cons_self, rfl⟩
      have rest := ih (queue ++ [event]) (fun later laterMem =>
        arrive later (List.mem_cons_of_mem _ laterMem))
      rw [List.append_assoc, List.singleton_append] at rest
      exact .cons arrived rest

/-- What waits on the queue when it holds `blocks` blocks and `events` are to come: all that is
served before the last of these blocks. -/
def waiting (dispatch : Dispatch machine) : ℕ → List Event → List Event
  | 0, _ => []
  | blocks + 1, [] => List.replicate (blocks + 1) dispatch.block
  | blocks + 1, event :: events =>
      if event = dispatch.block then event :: dispatch.waiting blocks events
      else if dispatch.inBackground event then dispatch.waiting (blocks + 1) events
      else event :: dispatch.waiting (blocks + 1) events

theorem ne_block {event : Event} (background : dispatch.inBackground event = true) :
    event ≠ dispatch.block := by
  rintro rfl
  simp [dispatch.block_served] at background

theorem posts_eq_false {event : Event} (served : dispatch.inBackground event = false) :
    dispatch.posts event = false := by
  cases posts : dispatch.posts event with
  | false => rfl
  | true => simp [dispatch.posts_inBackground event posts] at served

section Waiting

variable (dispatch) (blocks : ℕ) (events : List Event)

@[simp]
theorem waiting_zero : dispatch.waiting 0 events = [] := by
  rw [waiting]

theorem waiting_block :
    dispatch.waiting (blocks + 1) (dispatch.block :: events) =
      dispatch.block :: dispatch.waiting blocks events := by
  simp [waiting]

theorem waiting_background {event : Event} (background : dispatch.inBackground event = true) :
    dispatch.waiting blocks (event :: events) = dispatch.waiting blocks events := by
  cases blocks with
  | zero => simp
  | succ blocks => simp [waiting, ne_block background, background]

theorem waiting_arrival {event : Event} (arrival : dispatch.arrives event = true) :
    dispatch.waiting (blocks + 1) (event :: events) =
      event :: dispatch.waiting (blocks + 1) events := by
  simp only [arrives, Bool.and_eq_true, Bool.not_eq_true', decide_eq_true_eq] at arrival
  simp [waiting, arrival.1, arrival.2]

/-- One more block goes behind what is served between the last block so far and it. -/
theorem waiting_succ :
    ∃ arrivals, (∀ event ∈ arrivals, dispatch.arrives event = true) ∧
      dispatch.waiting (blocks + 1) events =
        dispatch.waiting blocks events ++ arrivals ++ [dispatch.block] := by
  induction events generalizing blocks with
  | nil =>
      refine ⟨[], by simp, ?_⟩
      cases blocks with
      | zero => simp [waiting]
      | succ blocks => simp [waiting, List.replicate_succ']
  | cons event events ih =>
      by_cases isBlock : event = dispatch.block
      · subst isBlock
        cases blocks with
        | zero => exact ⟨[], by simp, by simp [waiting_block]⟩
        | succ blocks =>
            rcases ih blocks with ⟨arrivals, arrive, shape⟩
            exact ⟨arrivals, arrive, by simp [waiting_block, shape]⟩
      · cases background : dispatch.inBackground event with
        | true =>
            rcases ih blocks with ⟨arrivals, arrive, shape⟩
            exact ⟨arrivals, arrive, by simp [waiting_background, background, shape]⟩
        | false =>
            have arrival : dispatch.arrives event = true := by simp [arrives, background, isBlock]
            rcases ih blocks with ⟨arrivals, arrive, shape⟩
            cases blocks with
            | zero =>
                refine ⟨event :: arrivals, ?_, ?_⟩
                · intro first firstMem
                  rcases List.mem_cons.mp firstMem with rfl | later
                  · exact arrival
                  · exact arrive first later
                · rw [dispatch.waiting_arrival 0 events arrival, shape]
                  simp
            | succ blocks =>
                exact ⟨arrivals, arrive, by simp [waiting_arrival, arrival, shape]⟩

end Waiting

/-- Before an event is run, what the next block waits behind arrives. -/
theorem dispatched_step (dispatch : Dispatch machine) {before after : State} {event : Event}
    {outputs : List Output} (step : machine.Step before event after outputs) (events : List Event) :
    ∃ arrivals, (∀ arrival ∈ arrivals, dispatch.arrives arrival = true) ∧
      dispatch.queued.Step
        { state := before
          queue := dispatch.waiting (dispatch.pending before) (event :: events) ++ arrivals }
        (.run event)
        { state := after, queue := dispatch.waiting (dispatch.pending after) events } outputs := by
  have pending := dispatch.pending_handle before event after outputs step.2
  cases background : dispatch.inBackground event with
  | true =>
      rw [if_neg (ne_block background), Nat.sub_zero] at pending
      rw [dispatch.waiting_background _ _ background]
      cases posts : dispatch.posts event with
      | false =>
          have ran := dispatch.run_step (dispatch.waiting (dispatch.pending before) events) step
            (Or.inl background)
          simp only [background, posts, if_true, Bool.false_eq_true, if_false, List.append_nil,
            Nat.add_zero] at ran pending
          rw [pending]
          exact ⟨[], by simp, by rwa [List.append_nil]⟩
      | true =>
          -- What is served before the new block must be on the queue before it is posted.
          rcases dispatch.waiting_succ (dispatch.pending before) events with
            ⟨arrivals, arrive, shape⟩
          have ran := dispatch.run_step
            (dispatch.waiting (dispatch.pending before) events ++ arrivals) step (Or.inl background)
          simp only [background, posts, if_true] at ran pending
          rw [pending, shape]
          exact ⟨arrivals, arrive, ran⟩
  | false =>
      have posts := posts_eq_false background
      simp only [posts, Bool.false_eq_true, if_false, Nat.add_zero] at pending
      by_cases isBlock : event = dispatch.block
      · subst isBlock
        rcases Nat.exists_eq_add_one.mpr (dispatch.pending_of_enabled before step.1) with
          ⟨blocks, isPending⟩
        have ran := dispatch.run_step (dispatch.block :: dispatch.waiting blocks events) step
          (Or.inr rfl)
        simp only [background, posts, Bool.false_eq_true, if_false, List.append_nil, isPending,
          List.tail_cons, if_true, Nat.add_sub_cancel] at ran pending
        rw [isPending, waiting_block, pending]
        exact ⟨[], by simp, by rwa [List.append_nil]⟩
      · have arrival : dispatch.arrives event = true := by simp [arrives, background, isBlock]
        rw [if_neg isBlock, Nat.sub_zero] at pending
        rw [pending]
        cases dispatch.pending before with
        | zero =>
            -- No block waits, so the event may arrive just before it is served.
            have ran := dispatch.run_step [event] step (Or.inr rfl)
            simp only [background, posts, Bool.false_eq_true, if_false, List.append_nil,
              List.tail_cons] at ran
            refine ⟨[event], ?_, ?_⟩
            · intro first firstMem
              rw [List.mem_singleton.mp firstMem]
              exact arrival
            · rw [waiting_zero, waiting_zero]
              exact ran
        | succ blocks =>
            rw [dispatch.waiting_arrival blocks events arrival]
            have ran := dispatch.run_step (event :: dispatch.waiting (blocks + 1) events) step
              (Or.inr rfl)
            simp only [background, posts, Bool.false_eq_true, if_false, List.append_nil,
              List.tail_cons] at ran
            exact ⟨[], by simp, by rwa [List.append_nil]⟩

theorem dispatched_of_run (dispatch : Dispatch machine) {start finish : State} {events : List Event}
    (run : machine.Run start events finish) :
    ∃ schedule queue,
      dispatch.queued.Run
        { state := start, queue := dispatch.waiting (dispatch.pending start) events } schedule
        { state := finish, queue := queue } ∧
      schedule.filterMap Dispatched.ran = events := by
  induction events generalizing start with
  | nil =>
      rw [run.nil_inv rfl]
      exact ⟨[], _, .refl, rfl⟩
  | cons event events ih =>
      rcases run.cons_inv rfl with ⟨middle, outputs, step, rest⟩
      rcases ih rest with ⟨schedule, queue, laterRun, ranLater⟩
      rcases dispatch.dispatched_step step events with ⟨arrivals, arrive, ranEvent⟩
      have arrived := arrivals_run start
        (dispatch.waiting (dispatch.pending start) (event :: events)) arrive
      refine ⟨arrivals.map Dispatched.arrive ++ .run event :: schedule, queue,
        arrived.trans (.cons ranEvent laterRun), ?_⟩
      have ranNow : Dispatched.ran (.run event) = some event := rfl
      rw [List.filterMap_append, Dispatched.ran_arrivals, List.nil_append,
        List.filterMap_cons_some ranNow, ranLater]

/-- A queue only orders the events that are run. -/
theorem run_of_dispatched {start finish : Queued State Event} {schedule : List (Dispatched Event)}
    (run : dispatch.queued.Run start schedule finish) :
    machine.Run start.state (schedule.filterMap Dispatched.ran) finish.state := by
  induction run with
  | refl => exact .refl
  | @snoc _ before after event outputs _ step ih =>
      rw [List.filterMap_append]
      cases event with
      | arrive event =>
          have handled := step.2
          simp only [queued, Except.ok.injEq, Prod.mk.injEq] at handled
          rcases handled with ⟨rfl, _⟩
          rw [List.filterMap_cons_none rfl, List.filterMap_nil, List.append_nil]
          exact ih
      | run event =>
          have isEnabled := step.1
          have handled := step.2
          simp only [queued, Bool.and_eq_true] at isEnabled handled
          split at handled
          · rename_i reached reachedOutputs ranEvent
            simp only [Except.ok.injEq, Prod.mk.injEq] at handled
            rcases handled with ⟨rfl, rfl⟩
            exact ih.snoc ⟨isEnabled.2, ranEvent⟩
          · simp at handled

/-- The runs with the queue are those without it, if no block is pending at the start. -/
theorem run_iff_dispatched (dispatch : Dispatch machine) {start finish : State}
    {events : List Event} (idle : dispatch.pending start = 0) :
    machine.Run start events finish ↔
      ∃ schedule queue,
        dispatch.queued.Run { state := start, queue := [] } schedule
          { state := finish, queue := queue } ∧
        schedule.filterMap Dispatched.ran = events := by
  constructor
  · intro run
    rcases dispatch.dispatched_of_run run with ⟨schedule, queue, dispatched, ranAll⟩
    rw [idle, waiting_zero] at dispatched
    exact ⟨schedule, queue, dispatched, ranAll⟩
  · rintro ⟨schedule, queue, dispatched, rfl⟩
    exact run_of_dispatched dispatched

end Dispatch

end EventMachine.Machine
