import Mathlib.Data.List.Basic

/-!
# Event machines

An event machine handles one event at a time, run to completion, the way a main
run loop serves timers, callbacks and gestures. Handling an event either ends in
a new state, with the calls it makes on other components as outputs, or faults.
Which events the environment can deliver depends on the state: a timer fires
only while it is pending.

The file gives runs of such a machine, the induction rule for invariants, and
the two ways in which the development states a law about all the steps of a
run: `Always`, and an invariant that is kept as long as every step meets a
guard.
-/

namespace EventMachine

universe u v w x

/-- A machine whose environment chooses among the enabled events. -/
structure Machine (State : Type u) (Event : Type v) (Output : Type w) (Fault : Type x) where
  enabled : State → Event → Bool
  handle : State → Event → Except Fault (State × List Output)

/-- An event in a list is its last one, or comes before the last one. -/
theorem snoc_eq_append_cons {Event : Type v} {events earlier later : List Event}
    {last event : Event} (shape : events ++ [last] = earlier ++ event :: later) :
    (events = earlier ∧ last = event ∧ later = []) ∨
      ∃ init, later = init ++ [last] ∧ events = earlier ++ event :: init := by
  rcases List.eq_nil_or_concat later with rfl | ⟨init, final, rfl⟩
  · left
    rcases List.append_inj' shape rfl with ⟨sameEvents, sameEvent⟩
    exact ⟨sameEvents, (List.cons.inj sameEvent).1, rfl⟩
  · right
    rw [List.concat_eq_append, ← List.cons_append, ← List.append_assoc] at shape
    rcases List.append_inj' shape rfl with ⟨sameEvents, sameEvent⟩
    rw [List.concat_eq_append, (List.cons.inj sameEvent).1]
    exact ⟨init, rfl, sameEvents⟩

namespace Machine

variable {State : Type u} {Event : Type v} {Output : Type w} {Fault : Type x}

def Step (machine : Machine State Event Output Fault) (before : State) (event : Event)
    (after : State) (outputs : List Output) : Prop :=
  machine.enabled before event = true ∧ machine.handle before event = .ok (after, outputs)

/-- The states reached by handling a list of events one after the other. -/
inductive Run (machine : Machine State Event Output Fault) (start : State) :
    List Event → State → Prop where
  | refl : Run machine start [] start
  | snoc {events : List Event} {before after : State} {event : Event} {outputs : List Output} :
      Run machine start events before → machine.Step before event after outputs →
      Run machine start (events ++ [event]) after

def Reachable (machine : Machine State Event Output Fault) (start state : State) : Prop :=
  ∃ events, machine.Run start events state

def Preserved (machine : Machine State Event Output Fault) (property : State → Prop) : Prop :=
  ∀ before event after outputs, property before →
    machine.Step before event after outputs → property after

/-- Every step that a list of events attempts, a faulting last one included, satisfies `law`. -/
def Always (machine : Machine State Event Output Fault) (law : State → Event → Prop)
    (start : State) (events : List Event) : Prop :=
  ∀ earlier event later before, events = earlier ++ event :: later →
    machine.Run start earlier before → machine.enabled before event = true → law before event

/-- The same runs, computed: `none` when an event is not enabled or its handler faults. -/
def exec (machine : Machine State Event Output Fault) (start : State) :
    List Event → Option State
  | [] => some start
  | event :: events =>
      if machine.enabled start event then
        match machine.handle start event with
        | .ok (after, _) => machine.exec after events
        | .error _ => none
      else none

variable {machine : Machine State Event Output Fault}

namespace Step

theorem deterministic {before left right : State} {event : Event}
    {leftOutputs rightOutputs : List Output}
    (leftStep : machine.Step before event left leftOutputs)
    (rightStep : machine.Step before event right rightOutputs) :
    left = right ∧ leftOutputs = rightOutputs := by
  have same := leftStep.2.symm.trans rightStep.2
  simpa using same

end Step

namespace Run

theorem single {before after : State} {event : Event} {outputs : List Output}
    (step : machine.Step before event after outputs) : machine.Run before [event] after :=
  snoc refl step

theorem trans {start middle finish : State} {first second : List Event}
    (firstRun : machine.Run start first middle) (secondRun : machine.Run middle second finish) :
    machine.Run start (first ++ second) finish := by
  induction secondRun with
  | refl => simpa using firstRun
  | snoc _ step ih =>
      rw [← List.append_assoc]
      exact snoc ih step

theorem cons {start middle finish : State} {event : Event} {events : List Event}
    {outputs : List Output} (step : machine.Step start event middle outputs)
    (rest : machine.Run middle events finish) : machine.Run start (event :: events) finish :=
  trans (single step) rest

theorem nil_inv {start finish : State} {events : List Event}
    (run : machine.Run start events finish) (empty : events = []) : finish = start := by
  cases run with
  | refl => rfl
  | snoc _ _ => simp at empty

theorem snoc_inv {start finish : State} {events whole : List Event} {event : Event}
    (run : machine.Run start whole finish) (shape : whole = events ++ [event]) :
    ∃ before outputs, machine.Run start events before ∧
      machine.Step before event finish outputs := by
  cases run with
  | refl => simp at shape
  | snoc earlier step =>
      rcases List.append_inj' shape rfl with ⟨rfl, sameEvent⟩
      rcases List.cons.inj sameEvent with ⟨rfl, _⟩
      exact ⟨_, _, earlier, step⟩

theorem deterministic {start left right : State} {events : List Event}
    (leftRun : machine.Run start events left) (rightRun : machine.Run start events right) :
    left = right := by
  induction leftRun generalizing right with
  | refl => exact (rightRun.nil_inv rfl).symm
  | snoc _ leftStep ih =>
      rcases rightRun.snoc_inv rfl with ⟨before, outputs, earlier, rightStep⟩
      have same := ih earlier
      subst same
      exact (leftStep.deterministic rightStep).1

/-- A run over two lists passes through a state between them. -/
theorem split {start finish : State} {whole : List Event}
    (run : machine.Run start whole finish) :
    ∀ {first second : List Event}, whole = first ++ second →
      ∃ middle, machine.Run start first middle ∧ machine.Run middle second finish := by
  induction run with
  | refl =>
      intro first second shape
      rcases List.append_eq_nil_iff.mp shape.symm with ⟨rfl, rfl⟩
      exact ⟨start, refl, refl⟩
  | snoc earlier step ih =>
      intro first second shape
      rcases List.eq_nil_or_concat second with rfl | ⟨init, last, rfl⟩
      · rw [List.append_nil] at shape
        subst shape
        exact ⟨_, snoc earlier step, refl⟩
      · rw [List.concat_eq_append, ← List.append_assoc] at shape
        rcases List.append_inj' shape rfl with ⟨sameEvents, sameEvent⟩
        rcases List.cons.inj sameEvent with ⟨rfl, _⟩
        rcases ih sameEvents with ⟨middle, firstRun, secondRun⟩
        rw [List.concat_eq_append]
        exact ⟨middle, firstRun, snoc secondRun step⟩

theorem cons_inv {start finish : State} {events whole : List Event} {event : Event}
    (run : machine.Run start whole finish) (shape : whole = event :: events) :
    ∃ middle outputs, machine.Step start event middle outputs ∧
      machine.Run middle events finish := by
  have cut : whole = [event] ++ events := shape
  rcases run.split cut with ⟨middle, firstRun, rest⟩
  rcases firstRun.snoc_inv (List.nil_append [event]).symm with ⟨before, outputs, empty, step⟩
  rw [empty.nil_inv rfl] at step
  exact ⟨middle, outputs, step, rest⟩

theorem reachable {start finish : State} {events : List Event}
    (run : machine.Run start events finish) : machine.Reachable start finish :=
  ⟨events, run⟩

/-- Induction over a run: what holds at the start and is kept by every step holds at the end. -/
theorem invariant {property : State → Prop} (preserved : machine.Preserved property)
    {start finish : State} {events : List Event} (initially : property start)
    (run : machine.Run start events finish) : property finish := by
  induction run with
  | refl => exact initially
  | snoc _ step ih => exact preserved _ _ _ _ ih step

theorem of_exec {events : List Event} {start finish : State}
    (executed : machine.exec start events = some finish) : machine.Run start events finish := by
  induction events generalizing start with
  | nil =>
      simp only [exec, Option.some.injEq] at executed
      subst executed
      exact refl
  | cons event events ih =>
      simp only [exec] at executed
      split at executed
      · rename_i isEnabled
        split at executed
        · rename_i after outputs handled
          exact cons ⟨isEnabled, handled⟩ (ih executed)
        · simp at executed
      · simp at executed

end Run

namespace Reachable

theorem refl (start : State) : machine.Reachable start start :=
  ⟨[], .refl⟩

theorem step {start before after : State} {event : Event} {outputs : List Output}
    (reached : machine.Reachable start before)
    (step : machine.Step before event after outputs) : machine.Reachable start after := by
  rcases reached with ⟨events, run⟩
  exact ⟨events ++ [event], run.snoc step⟩

theorem invariant {property : State → Prop} (preserved : machine.Preserved property)
    {start state : State} (initially : property start)
    (reached : machine.Reachable start state) : property state := by
  rcases reached with ⟨events, run⟩
  exact run.invariant preserved initially

end Reachable

namespace Always

variable {law : State → Event → Prop} {start : State}

theorem nil : machine.Always law start [] := by
  intro earlier event later before shape
  simp at shape

theorem snoc_iff {events : List Event} {last : Event} :
    machine.Always law start (events ++ [last]) ↔
      machine.Always law start events ∧
        ∀ before, machine.Run start events before → machine.enabled before last = true →
          law before last := by
  constructor
  · intro always
    constructor
    · intro earlier event later before shape
      apply always earlier event (later ++ [last]) before
      simp [shape]
    · intro before run
      exact always events last [] before rfl run
  · rintro ⟨beginning, atLast⟩ earlier event later before shape run isEnabled
    rcases snoc_eq_append_cons shape with ⟨rfl, rfl, _⟩ | ⟨init, _, sameEvents⟩
    · exact atLast before run isEnabled
    · exact beginning earlier event init before sameEvents run isEnabled

theorem cons {events : List Event} {event : Event} {after : State} {outputs : List Output}
    (handled : machine.handle start event = .ok (after, outputs)) (lawful : law start event)
    (rest : machine.Always law after events) : machine.Always law start (event :: events) := by
  intro earlier attempted later before shape run isEnabled
  cases earlier with
  | nil =>
      rcases List.cons.inj shape with ⟨rfl, _⟩
      rw [run.nil_inv rfl]
      exact lawful
  | cons first earlier =>
      rcases List.cons.inj shape with ⟨rfl, laterShape⟩
      rcases run.cons_inv rfl with ⟨middle, middleOutputs, step, laterRun⟩
      have same := handled.symm.trans step.2
      simp only [Except.ok.injEq, Prod.mk.injEq] at same
      rw [← same.1] at laterRun
      exact rest earlier attempted later before laterShape laterRun isEnabled

/-- A computed run up to a step that breaks the law. -/
theorem not_of_exec (earlier later : List Event) {event : Event} {before : State}
    (executed : machine.exec start earlier = some before)
    (isEnabled : machine.enabled before event = true) (broken : ¬law before event) :
    ¬machine.Always law start (earlier ++ event :: later) := by
  intro always
  exact broken (always earlier event later before rfl (.of_exec executed) isEnabled)

theorem ne_iff_notMem {events : List Event} {finish : State} {avoided : Event}
    (run : machine.Run start events finish) :
    machine.Always (fun _ event => event ≠ avoided) start events ↔ avoided ∉ events := by
  constructor
  · intro always avoidedMem
    rcases List.append_of_mem avoidedMem with ⟨earlier, later, rfl⟩
    rcases run.split rfl with ⟨before, earlierRun, laterRun⟩
    rcases laterRun.cons_inv rfl with ⟨_, _, step, _⟩
    exact always earlier avoided later before rfl earlierRun step.1 rfl
  · rintro notMem earlier event later before rfl _ _ rfl
    apply notMem
    simp

theorem congr {other : State → Event → Prop}
    (agree : ∀ before event, machine.Reachable start before →
      machine.enabled before event = true → (law before event ↔ other before event))
    (events : List Event) :
    machine.Always law start events ↔ machine.Always other start events := by
  constructor
  · intro always earlier event later before shape run isEnabled
    exact (agree before event run.reachable isEnabled).mp
      (always earlier event later before shape run isEnabled)
  · intro always earlier event later before shape run isEnabled
    exact (agree before event run.reachable isEnabled).mpr
      (always earlier event later before shape run isEnabled)

end Always

/-- A run all of whose steps meet `guard` keeps an invariant that guarded steps keep. -/
theorem Run.guarded {guard : State → Event → Prop} {property : State → Prop}
    (kept : ∀ before event after outputs, property before → guard before event →
      machine.Step before event after outputs → property after)
    {start finish : State} {events : List Event} (initially : property start)
    (run : machine.Run start events finish) (meets : machine.Always guard start events) :
    property finish := by
  induction run with
  | refl => exact initially
  | snoc earlier step ih =>
      rcases Always.snoc_iff.mp meets with ⟨beginning, atLast⟩
      exact kept _ _ _ _ (ih beginning) (atLast _ earlier step.1) step

/-- If guarded steps keep an invariant and under it obey a law, then a run whose steps all
meet the guard obeys the law at every step. -/
theorem Always.of_guarded {guard law : State → Event → Prop} {property : State → Prop}
    (kept : ∀ before event after outputs, property before → guard before event →
      machine.Step before event after outputs → property after)
    (obeys : ∀ before event, property before → guard before event →
      machine.enabled before event = true → law before event)
    {start : State} {events : List Event} (initially : property start)
    (meets : machine.Always guard start events) : machine.Always law start events := by
  intro earlier event later before shape run isEnabled
  have beginning : machine.Always guard start earlier := by
    intro earlier' event' later' before' shape'
    apply meets earlier' event' (later' ++ event :: later) before'
    simp [shape, shape']
  exact obeys before event (run.guarded kept initially beginning)
    (meets earlier event later before shape run isEnabled) isEnabled

/-- A law that keeps an invariant, and under the invariant amounts to a condition on the state
before the step, holds throughout a run exactly when the condition does. -/
theorem Always.iff_of_kept {law condition : State → Event → Prop} {property : State → Prop}
    (kept : ∀ before event after outputs, property before → law before event →
      machine.Step before event after outputs → property after)
    (agree : ∀ before event, property before → machine.enabled before event = true →
      (law before event ↔ condition before event))
    {start : State} (events : List Event) (initially : property start) :
    machine.Always law start events ↔ machine.Always condition start events := by
  have keptByCondition : ∀ before event after outputs, property before →
      condition before event → machine.Step before event after outputs → property after := by
    intro before event after outputs holds met step
    exact kept before event after outputs holds ((agree before event holds step.1).mpr met) step
  constructor
  · intro lawful
    exact Always.of_guarded kept (fun before event holds obeyed isEnabled =>
      (agree before event holds isEnabled).mp obeyed) initially lawful
  · intro met
    exact Always.of_guarded keptByCondition (fun before event holds condition isEnabled =>
      (agree before event holds isEnabled).mpr condition) initially met

end Machine

end EventMachine
