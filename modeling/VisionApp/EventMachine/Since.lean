import VisionApp.EventMachine.Basic

/-!
# Flags that events set and clear

A flag that some events set, others clear and all others leave is on exactly
when it was set and no event has cleared it since. Which events set it may
depend on the state.
-/

namespace EventMachine.Machine

universe u v w x

variable {State : Type u} {Event : Type v} {Output : Type w} {Fault : Type x}

/-- A run over `events` sets a flag that it does not clear afterwards. -/
def Since (machine : Machine State Event Output Fault) (sets : State → Event → Bool)
    (clears : Event → Bool) (start : State) (events : List Event) : Prop :=
  ∃ earlier event later before, events = earlier ++ event :: later ∧
    machine.Run start earlier before ∧ sets before event = true ∧
      ∀ other ∈ later, clears other = false

variable {machine : Machine State Event Output Fault} {sets : State → Event → Bool}
  {clears : Event → Bool} {start finish : State} {events : List Event}

theorem not_since_nil : ¬machine.Since sets clears start [] := by
  rintro ⟨earlier, event, later, before, shape, _⟩
  simp at shape

theorem since_snoc_iff (run : machine.Run start events finish) (last : Event) :
    machine.Since sets clears start (events ++ [last]) ↔
      sets finish last = true ∨
        machine.Since sets clears start events ∧ clears last = false := by
  constructor
  · rintro ⟨earlier, event, later, before, shape, earlierRun, isSet, uncleared⟩
    rcases snoc_eq_append_cons shape with ⟨rfl, rfl, _⟩ | ⟨init, rfl, sameEvents⟩
    · rw [run.deterministic earlierRun]
      exact Or.inl isSet
    · right
      refine ⟨⟨earlier, event, init, before, sameEvents, earlierRun, isSet, ?_⟩, ?_⟩
      · intro other otherMem
        exact uncleared other (by simp [otherMem])
      · exact uncleared last (by simp)
  · rintro (isSet | ⟨⟨earlier, event, later, before, rfl, earlierRun, isSet, uncleared⟩, kept⟩)
    · exact ⟨events, last, [], finish, rfl, run, isSet, by simp⟩
    · refine ⟨earlier, event, later ++ [last], before, by simp, earlierRun, isSet, ?_⟩
      intro other otherMem
      rcases List.mem_append.mp otherMem with old | new
      · exact uncleared other old
      · rw [List.mem_singleton.mp new]
        exact kept

/-- The flag is on at the end of a run exactly when it was set since it was last cleared. -/
theorem Run.flag_iff_since (flag : State → Bool)
    (stepped : ∀ before event after outputs, machine.Reachable start before →
      machine.Step before event after outputs →
        (flag after = true ↔
          sets before event = true ∨ flag before = true ∧ clears event = false))
    (initially : flag start = false) (run : machine.Run start events finish) :
    flag finish = true ↔ machine.Since sets clears start events := by
  induction run with
  | refl =>
      rw [initially]
      exact iff_of_false (by simp) not_since_nil
  | snoc earlier step ih =>
      rw [stepped _ _ _ _ earlier.reachable step, since_snoc_iff earlier, ih]

end EventMachine.Machine
