import VisionApp.ViewController.Selection

/-!
# The rows of the table

The table view reads its number of rows when it is laid out and reloaded, and
asks for cells by that number later. So every handler that puts another list on
the screen has to reload the table before it returns. `viewWillAppear` does not,
and neither does `filterLocationList` when the list runs empty and an online
search starts that may never be answered.
-/

namespace VisionApp.HomeViewController

open EventMachine EventMachine.Machine

/-- The row count that the table obtained last is that of the list. -/
def CountMatches (home : HomeViewController) : Prop :=
  ∀ rows, home.tableRows = some rows → rows = home.localLocationList.length

/-- The step leaves a matching row count, and a cell is found. -/
def TableLaw (before : HomeViewController) (event : Event) : Prop :=
  match before.handle event with
  | .ok (after, _) => CountMatches after
  | .error _ => ∀ row, event ≠ .cellForRowAt row

/-- Once the table is laid out, the screen appears only with as many saved locations as are listed,
and a voice filter that finds nothing meets an empty list. -/
def TableCondition (before : HomeViewController) : Event → Prop
  | .viewWillAppear saved =>
      before.tableRows ≠ none → saved.length = before.localLocationList.length
  | .filterLocationList filterInput =>
      before.tableRows ≠ none → filterInput ≠ "" →
        filterLocations before.localLocationList filterInput = [] → before.localLocationList = []
  | _ => True

theorem countMatches_of_none {home : HomeViewController} (notLaidOut : home.tableRows = none) :
    CountMatches home := by
  intro rows obtained
  rw [notLaidOut] at obtained
  simp at obtained

theorem countMatches_of_length {home : HomeViewController}
    (obtained : home.tableRows = some home.localLocationList.length) : CountMatches home := by
  intro rows isCount
  rw [obtained] at isCount
  exact (Option.some.inj isCount).symm

/-- A list that was not reloaded must have the length of the former one. -/
theorem countMatches_iff_of_kept {before after : HomeViewController} (matched : CountMatches before)
    (kept : after.tableRows = before.tableRows) :
    CountMatches after ↔
      (before.tableRows ≠ none →
        after.localLocationList.length = before.localLocationList.length) := by
  constructor
  · intro matchedAfter laidOut
    rcases Option.ne_none_iff_exists'.mp laidOut with ⟨rows, obtained⟩
    rw [← matched rows obtained, ← matchedAfter rows (kept.trans obtained)]
  · intro sameLength rows obtained
    rw [kept] at obtained
    rw [sameLength (by simp [obtained])]
    exact matched rows obtained

theorem tableCondition_of_error {before : HomeViewController} {event : Event}
    {trap : Trap} (failed : before.handle event = .error trap) : TableCondition before event := by
  cases event with
  | viewWillAppear saved => simp [handle] at failed
  | filterLocationList filterInput =>
      simp only [handle, filterLocationList] at failed
      split at failed
      · rcases selectDestination_eq before with ⟨message, selects⟩
        rw [selects] at failed
        simp at failed
      · split at failed
        · simp at failed
        · rcases selectDestination_eq ({ before with
            localLocationList := filterLocations before.localLocationList filterInput
              }).reloadData with ⟨message, selects⟩
          rw [selects] at failed
          simp at failed
  | _ => trivial

theorem countMatches_of_same {before after : HomeViewController} (matched : CountMatches before)
    (sameRows : after.tableRows = before.tableRows)
    (sameList : after.localLocationList = before.localLocationList) : CountMatches after := by
  intro rows obtained
  rw [sameList]
  exact matched rows (sameRows.symm.trans obtained)

theorem countMatches_iff_of_reaction {before after : HomeViewController} {event : Event}
    (matched : CountMatches before) (reaction : Reaction before event after) :
    CountMatches after ↔ TableCondition before event := by
  cases reaction with
  | viewWillAppear saved => exact countMatches_iff_of_kept matched rfl
  | @notFound filterInput isSaid nothingFound =>
      refine (countMatches_iff_of_kept matched ?_).trans ?_
      · rfl
      constructor
      · intro sameLength laidOut _ _
        exact List.eq_nil_of_length_eq_zero (sameLength laidOut).symm
      · intro emptyBefore laidOut
        rw [emptyBefore laidOut isSaid nothingFound]
  | filtered counter isSaid found =>
      refine iff_of_true (countMatches_of_length rfl) ?_
      intro _ _ nothingFound
      exact absurd nothingFound found
  | searchTimer saved =>
      rw [searchTimerBlock_eq]
      exact iff_of_true (countMatches_of_length rfl) trivial
  | answered counter outstanding converted =>
      exact iff_of_true (countMatches_of_length rfl) trivial
  | tableLayout => exact iff_of_true (countMatches_of_length rfl) trivial
  | textDidChange searchText =>
      rw [textDidChange_eq]
      exact iff_of_true (countMatches_of_same matched rfl rfl) trivial
  | nothingSaid counter =>
      refine iff_of_true (countMatches_of_same matched rfl rfl) ?_
      intro _ isSaid
      exact absurd rfl isSaid
  | swipe direction counter => exact iff_of_true (countMatches_of_same matched rfl rfl) trivial
  | unanswered nothing => exact iff_of_true (countMatches_of_same matched rfl rfl) trivial
  | tap => exact iff_of_true matched trivial
  | longPress => exact iff_of_true matched trivial
  | navigateToVision isLocalLocation => exact iff_of_true matched trivial
  | cellForRowAt inRange => exact iff_of_true matched trivial

/-- A row below a matching count has a cell. -/
theorem cellForRowAt_of_countMatches {before : HomeViewController} {row : ℕ}
    (matched : CountMatches before) (isEnabled : before.enabled (.cellForRowAt row) = true) :
    ∃ location, before.cellForRowAt row = .ok location := by
  have below : row < before.tableRows.getD 0 := of_decide_eq_true isEnabled
  cases obtained : before.tableRows with
  | none => simp [obtained] at below
  | some rows =>
      rw [obtained, Option.getD_some, matched rows obtained] at below
      have inRange : InRange row before.localLocationList := by
        simp only [InRange]
        omega
      rcases subscript_of_inRange inRange with ⟨location, found⟩
      exact ⟨location.locationName, by simp [cellForRowAt, found]⟩

theorem tableLaw_iff {before : HomeViewController} {event : Event} (matched : CountMatches before)
    (isEnabled : before.enabled event = true) :
    TableLaw before event ↔ TableCondition before event := by
  cases handled : before.handle event with
  | ok result =>
      rcases result with ⟨after, requests⟩
      simp only [TableLaw, handled]
      exact countMatches_iff_of_reaction matched (reaction_of_handle handled)
  | error trap =>
      simp only [TableLaw, handled]
      refine iff_of_true ?_ (tableCondition_of_error handled)
      rintro row rfl
      rcases cellForRowAt_of_countMatches matched isEnabled with ⟨location, found⟩
      simp only [handle, found] at handled
      have never : (Except.ok (before, []) : Except Trap (HomeViewController × List Output)) =
          .error trap := handled
      simp at never

/-- The table counts the rows of the list throughout a run exactly when every step meets the
condition. -/
theorem table_iff_condition (events : List Event) :
    machine.Always TableLaw {} events ↔ machine.Always TableCondition {} events := by
  have kept : ∀ before event after outputs, CountMatches before → TableLaw before event →
      machine.Step before event after outputs → CountMatches after := by
    intro before event after outputs _ law step
    have handled : before.handle event = .ok (after, outputs) := step.2
    simpa only [TableLaw, handled] using law
  apply Always.iff_of_kept kept
  · intro before event matched isEnabled
    exact tableLaw_iff matched isEnabled
  · exact countMatches_of_none rfl

/-- Nothing is saved. The user finds a café online, looks at the vision screen and comes back. -/
def reappeared : List Event :=
  [.viewWillAppear [], .tableLayout, .textDidChange "cafe", .searchTimer [],
    .searchCompleted 0 (some [⟨some "Cafe", some "Main Street", {}⟩]), .swipe .right,
    .viewWillAppear [], .cellForRowAt 0]

/-- The table still has the row of the café, and asking for its cell ends the app. -/
theorem reappeared_traps :
    (∃ before, machine.Run {} (reappeared.take 7) before ∧ before.tableRows = some 1 ∧
      before.localLocationList = [] ∧ machine.enabled before (.cellForRowAt 0) = true ∧
      machine.handle before (.cellForRowAt 0) = .error .indexOutOfRange) ∧
      ¬machine.Always TableLaw {} reappeared := by
  refine ⟨⟨_, .of_exec rfl, rfl, rfl, rfl, rfl⟩, ?_⟩
  apply Always.not_of_exec (reappeared.take 7) [] rfl rfl
  intro law
  exact absurd rfl (law 0)

end VisionApp.HomeViewController
