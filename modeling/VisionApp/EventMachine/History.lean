import VisionApp.EventMachine.Basic

/-!
# History variables

A law about a run often speaks of what happened earlier: which call opened a
session, who gave a reply. A history variable records it beside the state. It is
updated from what a step did and no step reads it, so the observed machine has
the runs of the original one, each with exactly one history.
-/

namespace EventMachine.Machine

universe u v w x y

variable {State : Type u} {Event : Type v} {Output : Type w} {Fault : Type x} {History : Type y}

/-- The machine with a history variable that `observe` updates after every step. -/
def observed (machine : Machine State Event Output Fault)
    (observe : History → State → Event → State → List Output → History) :
    Machine (State × History) Event Output Fault where
  enabled before event := machine.enabled before.1 event
  handle before event :=
    match machine.handle before.1 event with
    | .ok (after, outputs) =>
        .ok ((after, observe before.2 before.1 event after outputs), outputs)
    | .error fault => .error fault

variable {machine : Machine State Event Output Fault}
  {observe : History → State → Event → State → List Output → History}

@[simp]
theorem observed_enabled (before : State × History) (event : Event) :
    (machine.observed observe).enabled before event = machine.enabled before.1 event :=
  rfl

theorem observed_step_iff {before after : State × History} {event : Event}
    {outputs : List Output} :
    (machine.observed observe).Step before event after outputs ↔
      machine.Step before.1 event after.1 outputs ∧
        after.2 = observe before.2 before.1 event after.1 outputs := by
  rcases after with ⟨after, history⟩
  simp only [Step, observed]
  cases handled : machine.handle before.1 event with
  | error fault => simp
  | ok result =>
      rcases result with ⟨reached, reachedOutputs⟩
      simp only [Except.ok.injEq, Prod.mk.injEq]
      constructor
      · rintro ⟨isEnabled, ⟨rfl, rfl⟩, rfl⟩
        exact ⟨⟨isEnabled, rfl, rfl⟩, rfl⟩
      · rintro ⟨⟨isEnabled, rfl, rfl⟩, rfl⟩
        exact ⟨isEnabled, ⟨rfl, rfl⟩, rfl⟩

/-- What the original machine's step keeps, with the history that is recorded, is kept. -/
theorem observed_kept {property : State × History → Prop} {before after : State × History}
    {event : Event} {outputs : List Output}
    (step : (machine.observed observe).Step before event after outputs)
    (kept : machine.Step before.1 event after.1 outputs →
      property (after.1, observe before.2 before.1 event after.1 outputs)) : property after := by
  rcases observed_step_iff.mp step with ⟨machineStep, observed⟩
  have recorded := kept machineStep
  rw [← observed] at recorded
  exact recorded

theorem observed_preserved {property : State × History → Prop}
    (kept : ∀ before history event after outputs, property (before, history) →
      machine.Step before event after outputs →
        property (after, observe history before event after outputs)) :
    (machine.observed observe).Preserved property := by
  intro before event after outputs holds step
  exact observed_kept step (kept before.1 before.2 event after.1 outputs holds)

namespace Run

theorem forget {start finish : State × History} {events : List Event}
    (run : (machine.observed observe).Run start events finish) :
    machine.Run start.1 events finish.1 := by
  induction run with
  | refl => exact refl
  | snoc _ step ih => exact snoc ih (observed_step_iff.mp step).1

/-- Every run of the original machine has a history, whatever the history it starts with. -/
theorem record {start finish : State} {events : List Event} (run : machine.Run start events finish)
    (history : History) :
    ∃ after, (machine.observed observe).Run (start, history) events (finish, after) := by
  induction run with
  | refl => exact ⟨history, refl⟩
  | @snoc _ before after event outputs _ step ih =>
      rcases ih with ⟨middle, earlier⟩
      have observedStep : (machine.observed observe).Step (before, middle) event
          (after, observe middle before event after outputs) outputs :=
        observed_step_iff.mpr ⟨step, rfl⟩
      exact ⟨_, snoc earlier observedStep⟩

end Run

/-- A law that does not ask about the history is a law of the original machine. -/
theorem Always.observed_iff {law : State → Event → Prop} {start : State} {history : History}
    {events : List Event} :
    (machine.observed observe).Always (fun before event => law before.1 event) (start, history)
        events ↔
      machine.Always law start events := by
  constructor
  · intro always earlier event later before shape run isEnabled
    rcases run.record history with ⟨recorded, observedRun⟩
    exact always earlier event later (before, recorded) shape observedRun isEnabled
  · intro always earlier event later before shape run isEnabled
    exact always earlier event later before.1 shape run.forget isEnabled

end EventMachine.Machine
