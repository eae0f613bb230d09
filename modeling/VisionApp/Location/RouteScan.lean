import Mathlib.Data.List.Basic
import VisionApp.Location.NextMove

/-!
# Scanning the routes of a response

`showRoute` looks for the first instruction of every route whose number of steps
differs from the one it remembers. The index and the message of the scan are
declared outside the loop over the routes. Once a route has filled the message,
the scan of every later route ends before it starts, and the same message is
posted again. And when the first route to be scanned has no instruction, the
index runs past its last step.
-/

namespace VisionApp.LocationManager

/-- The routes whose number of steps differs from the one remembered when the loop reaches them. -/
def changedRoutes : ℤ → List MKRoute → List MKRoute
  | _, [] => []
  | remembered, route :: routes =>
      if remembered ≠ route.steps.length then route :: changedRoutes route.steps.length routes
      else changedRoutes remembered routes

def lastStepCount (remembered : ℤ) (routes : List MKRoute) : ℤ :=
  (routes.getLast?.map (fun route => (route.steps.length : ℤ))).getD remembered

/-- No step beyond a route is read, each changed route posts its own first instruction if it has
one, and the last number of steps is remembered. -/
def RouteLaw (manager : LocationManager) (response : DirectionsResponse) : Prop :=
  ∃ after,
    manager.showRoute response =
      .ok (after, (changedRoutes manager.moveCount response.routes).filterMap
        (fun route => firstInstruction route.steps)) ∧
      after.moveCount = lastStepCount manager.moveCount response.routes

/-- All the changed routes have the same first instruction. -/
def SameInstruction (manager : LocationManager) (response : DirectionsResponse) : Prop :=
  ∃ instruction, ∀ route ∈ changedRoutes manager.moveCount response.routes,
    firstInstruction route.steps = some instruction

theorem lastStepCount_cons (remembered : ℤ) (route : MKRoute) (routes : List MKRoute) :
    lastStepCount remembered (route :: routes) = lastStepCount route.steps.length routes := by
  simp only [lastStepCount, List.getLast?_cons]
  cases routes.getLast? with
  | none => rfl
  | some last => rfl

theorem filterMap_eq_replicate_iff {First Second : Type*} {choose : First → Option Second}
    {value : Second} (elements : List First) :
    elements.filterMap choose = List.replicate elements.length value ↔
      ∀ element ∈ elements, choose element = some value := by
  constructor
  · intro same element elementMem
    have lengths := congrArg List.length same
    rw [List.length_replicate, List.filterMap_length_eq_length] at lengths
    rcases Option.isSome_iff_exists.mp (lengths element elementMem) with ⟨chosen, isChosen⟩
    have chosenMem : chosen ∈ elements.filterMap choose :=
      List.mem_filterMap.mpr ⟨element, elementMem, isChosen⟩
    rw [same] at chosenMem
    rw [isChosen, List.eq_of_mem_replicate chosenMem]
  · intro all
    induction elements with
    | nil => rfl
    | cons element elements ih =>
        rw [List.filterMap_cons_some (all element List.mem_cons_self), List.length_cons,
          List.replicate_succ, ih]
        intro later laterMem
        exact all later (List.mem_cons_of_mem _ laterMem)

/-- A route without an instruction takes the scan past its last step. -/
theorem scanSteps_of_none {steps : List MKRouteStep} {audioMessage : String}
    (isEmpty : audioMessage.isEmpty = true) (missing : firstInstruction steps = none)
    (counter : ℕ) : scanSteps steps counter audioMessage = .error .indexOutOfRange := by
  induction steps generalizing counter audioMessage with
  | nil =>
      rw [scanSteps.eq_def]
      simp only [isEmpty, if_true]
  | cons step steps ih =>
      rw [scanSteps.eq_def]
      simp only [isEmpty, if_true]
      cases stepEmpty : step.instructions.isEmpty with
      | true =>
          apply ih stepEmpty
          simpa [firstInstruction, stepEmpty] using missing
      | false => simp [firstInstruction, stepEmpty] at missing

/-- With a message from an earlier route, every changed route posts that message. -/
theorem showRoutes_of_nonempty {audioMessage : String} (notEmpty : audioMessage.isEmpty = false)
    (routes : List MKRoute) (counter : ℕ) (manager : LocationManager) :
    ∃ after,
      showRoutes routes counter audioMessage manager =
        .ok (after,
          List.replicate (changedRoutes manager.moveCount routes).length audioMessage) ∧
        after.moveCount = lastStepCount manager.moveCount routes := by
  induction routes generalizing manager with
  | nil => exact ⟨manager, rfl, rfl⟩
  | cons route routes ih =>
      rw [lastStepCount_cons]
      simp only [showRoutes, changedRoutes]
      split
      · rcases ih { manager with
          moveCount := route.steps.length
          nextMove := audioMessage } with ⟨after, rest, remembered⟩
        simp only [scanSteps_of_nonempty notEmpty, rest]
        exact ⟨after, rfl, remembered⟩
      · rename_i same
        rw [ne_eq, not_not] at same
        rw [← same]
        exact ih manager

/-- Up to the first changed route nothing happens. -/
theorem showRoutes_unchanged {manager : LocationManager} {routes : List MKRoute}
    (unchanged : changedRoutes manager.moveCount routes = []) (counter : ℕ)
    (audioMessage : String) :
    showRoutes routes counter audioMessage manager = .ok (manager, []) ∧
      lastStepCount manager.moveCount routes = manager.moveCount := by
  induction routes with
  | nil => exact ⟨rfl, rfl⟩
  | cons route routes ih =>
      simp only [changedRoutes] at unchanged
      split at unchanged
      · simp at unchanged
      · rename_i same
        rcases ih unchanged with ⟨nothing, remembered⟩
        rw [lastStepCount_cons]
        simp only [showRoutes, if_neg same]
        rw [ne_eq, not_not] at same
        rw [← same]
        exact ⟨nothing, remembered⟩

theorem showRoutes_changed {manager : LocationManager} {routes rest : List MKRoute}
    {route : MKRoute} (changed : changedRoutes manager.moveCount routes = route :: rest) :
    match firstInstruction route.steps with
    | none => showRoutes routes 0 "" manager = .error .indexOutOfRange
    | some instruction =>
        ∃ after,
          showRoutes routes 0 "" manager =
            .ok (after, List.replicate (route :: rest).length instruction) ∧
            after.moveCount = lastStepCount manager.moveCount routes := by
  have isEmpty : "".isEmpty = true := rfl
  induction routes with
  | nil => simp [changedRoutes] at changed
  | cons first routes ih =>
      rw [lastStepCount_cons]
      simp only [changedRoutes] at changed
      split at changed
      · rename_i differs
        rcases List.cons.inj changed with ⟨rfl, rfl⟩
        simp only [showRoutes, if_pos differs, List.drop_zero]
        cases found : firstInstruction first.steps with
        | none => simp only [scanSteps_of_none isEmpty found]
        | some instruction =>
            have notEmpty : instruction.isEmpty = false := by
              simpa using List.find?_some found
            rcases scanSteps_firstInstruction isEmpty found 0 with ⟨finish, scanned⟩
            rcases showRoutes_of_nonempty notEmpty routes finish { manager with
              moveCount := first.steps.length
              nextMove := instruction } with ⟨after, posted, remembered⟩
            simp only [scanned, posted]
            exact ⟨after, rfl, remembered⟩
      · rename_i same
        simp only [showRoutes, if_neg same]
        rw [ne_eq, not_not] at same
        rw [← same]
        exact ih changed

/-- The scan of a response obeys the law exactly when all the changed routes have the same first
instruction. -/
theorem routeLaw_iff_sameInstruction (manager : LocationManager)
    (response : DirectionsResponse) :
    RouteLaw manager response ↔ SameInstruction manager response := by
  simp only [RouteLaw, SameInstruction, showRoute]
  cases changed : changedRoutes manager.moveCount response.routes with
  | nil =>
      rcases showRoutes_unchanged changed 0 "" with ⟨nothing, remembered⟩
      simp only [nothing, remembered]
      simp
  | cons route rest =>
      have scanned := showRoutes_changed changed
      cases found : firstInstruction route.steps with
      | none =>
          simp only [found] at scanned
          simp [scanned, found]
      | some instruction =>
          simp only [found] at scanned
          rcases scanned with ⟨after, posted, remembered⟩
          rw [posted]
          constructor
          · rintro ⟨reached, showed, _⟩
            simp only [Except.ok.injEq, Prod.mk.injEq] at showed
            exact ⟨instruction, (filterMap_eq_replicate_iff _).mp showed.2.symm⟩
          · rintro ⟨common, all⟩
            have isCommon := all route List.mem_cons_self
            rw [found, Option.some.injEq] at isCommon
            subst isCommon
            rw [(filterMap_eq_replicate_iff _).mpr all]
            exact ⟨after, rfl, remembered⟩

def silentRoute : DirectionsResponse :=
  ⟨[⟨[⟨""⟩]⟩]⟩

def twoRoutes : DirectionsResponse :=
  ⟨[⟨[⟨"Turn left"⟩]⟩, ⟨[⟨"Turn right"⟩, ⟨"Arrive"⟩]⟩]⟩

/-- A route without an instruction ends the app, and a second route posts what the first begins
with. -/
theorem routes_missed :
    (({} : LocationManager).showRoute silentRoute = .error .indexOutOfRange ∧
      ¬RouteLaw {} silentRoute) ∧
      ((∃ after, ({} : LocationManager).showRoute twoRoutes =
        .ok (after, ["Turn left", "Turn left"])) ∧ ¬RouteLaw {} twoRoutes) := by
  refine ⟨⟨rfl, ?_⟩, ⟨_, rfl⟩, ?_⟩
  · rintro ⟨after, showed, _⟩
    have trapped : ({} : LocationManager).showRoute silentRoute = .error .indexOutOfRange := rfl
    rw [trapped] at showed
    simp at showed
  · rintro ⟨after, showed, _⟩
    have announced : ({} : LocationManager).showRoute twoRoutes =
        .ok ({ moveCount := 2, nextMove := "Turn left" }, ["Turn left", "Turn left"]) := rfl
    rw [announced] at showed
    simp only [Except.ok.injEq, Prod.mk.injEq] at showed
    exact absurd showed.2 (by decide)

end VisionApp.LocationManager
