import VisionApp.ViewController.Selection

/-!
# What a swipe announces

A swipe down moves the counter and announces the location it then points to. A
swipe up announces first and moves afterwards, so what is heard is the location
below the one that is selected, scrolled to and taken when the user goes on.
-/

namespace VisionApp.HomeViewController

open EventMachine EventMachine.Machine

/-- The counter for which a swipe up or down runs `selectDestination`. -/
def selecting (before : HomeViewController) : Event → Option ℤ
  | .swipe .up => some before.locationSelectionCounter
  | .swipe .down => some (before.locationSelectionCounter + 1)
  | _ => none

/-- A swipe that announces a location announces the one that it leaves selected, scrolls to it, and
leaves it to be taken by `NavigateToVision`. -/
def SwipeLaw (before : HomeViewController) (event : Event) : Prop :=
  ∀ counter, selecting before event = some counter → InRange counter before.localLocationList →
    ∃ after location, before.handle event =
      .ok (after, [.voiceOutput location.locationName .voiceCommandInfo,
        .scrollToRow after.locationSelectionCounter]) ∧
      subscript after.localLocationList after.locationSelectionCounter = .ok location ∧
      after.visionViewController false = .ok { destinationLocation := some location }

/-- A swipe down and a swipe up that stay in the list end by announcing the location that was
selected before. -/
def PairLaw (start : HomeViewController) (events : List Event) : Prop :=
  ∀ earlier later before, events = earlier ++ .swipe .down :: .swipe .up :: later →
    machine.Run start earlier before →
      InRange before.locationSelectionCounter before.localLocationList →
        InRange (before.locationSelectionCounter + 1) before.localLocationList →
          ∃ middle after downRequests upRequests location,
            machine.Step before (.swipe .down) middle downRequests ∧
              machine.Step middle (.swipe .up) after upRequests ∧
              subscript before.localLocationList before.locationSelectionCounter = .ok location ∧
              .voiceOutput location.locationName .voiceCommandInfo ∈ upRequests

/-- A swipe up from a row has a row above it, of the same name. -/
def SwipeCondition (before : HomeViewController) (event : Event) : Prop :=
  event = .swipe .up → InRange before.locationSelectionCounter before.localLocationList →
    ∃ upper lower,
      subscript before.localLocationList (before.locationSelectionCounter - 1) = .ok upper ∧
        subscript before.localLocationList before.locationSelectionCounter = .ok lower ∧
        upper.locationName = lower.locationName

theorem selectDestination_of_inRange {home : HomeViewController}
    (inRange : InRange home.locationSelectionCounter home.localLocationList) :
    ∃ location,
      subscript home.localLocationList home.locationSelectionCounter = .ok location ∧
        home.selectDestination =
          .ok (home, [.voiceOutput location.locationName .voiceCommandInfo]) := by
  rcases subscript_of_inRange inRange with ⟨location, found⟩
  refine ⟨location, found, ?_⟩
  have inside : ¬(home.locationSelectionCounter < 0 ∨
      home.locationSelectionCounter > home.localLocationList.length - 1) := by
    simp only [InRange] at inRange
    omega
  simp only [selectDestination, if_neg inside, found]
  rfl

theorem visionViewController_of_subscript {home : HomeViewController} {location : LocationModel}
    (found : subscript home.localLocationList home.locationSelectionCounter = .ok location) :
    home.visionViewController false = .ok { destinationLocation := some location } := by
  simp only [visionViewController, found]
  rfl

theorem swipeDown_of_inRange {before : HomeViewController}
    (inRange : InRange (before.locationSelectionCounter + 1) before.localLocationList) :
    ∃ location,
      subscript before.localLocationList (before.locationSelectionCounter + 1) = .ok location ∧
        before.handle (.swipe .down) =
          .ok ({ before with locationSelectionCounter := before.locationSelectionCounter + 1 },
            [.voiceOutput location.locationName .voiceCommandInfo,
              .scrollToRow (before.locationSelectionCounter + 1)]) := by
  have moved : InRange ({ before with
      locationSelectionCounter := before.locationSelectionCounter + 1 }).locationSelectionCounter
      before.localLocationList := inRange
  rcases selectDestination_of_inRange moved with ⟨location, found, selects⟩
  refine ⟨location, found, ?_⟩
  simp only [handle, swipeDetected, selects]
  rfl

theorem swipeUp_of_inRange {before : HomeViewController}
    (inRange : InRange before.locationSelectionCounter before.localLocationList) :
    ∃ location,
      subscript before.localLocationList before.locationSelectionCounter = .ok location ∧
        before.handle (.swipe .up) =
          .ok ({ before with locationSelectionCounter := before.locationSelectionCounter - 1 },
            [.voiceOutput location.locationName .voiceCommandInfo,
              .scrollToRow (before.locationSelectionCounter - 1)]) := by
  rcases selectDestination_of_inRange inRange with ⟨location, found, selects⟩
  refine ⟨location, found, ?_⟩
  simp only [handle, swipeDetected, selects]
  rfl

theorem swipeLaw_down (before : HomeViewController) : SwipeLaw before (.swipe .down) := by
  rintro counter selects inRange
  rcases Option.some.inj selects with rfl
  rcases swipeDown_of_inRange inRange with ⟨location, found, handled⟩
  exact ⟨_, location, handled, found, visionViewController_of_subscript found⟩

theorem swipeLaw_up_iff (before : HomeViewController) :
    SwipeLaw before (.swipe .up) ↔ SwipeCondition before (.swipe .up) := by
  constructor
  · intro law _ inRange
    rcases law _ rfl inRange with ⟨after, upper, handled, selected, _⟩
    rcases swipeUp_of_inRange inRange with ⟨lower, found, announces⟩
    rw [announces] at handled
    simp only [Except.ok.injEq, Prod.mk.injEq, List.cons.injEq, Output.voiceOutput.injEq,
      Output.scrollToRow.injEq, and_true] at handled
    rcases handled with ⟨rfl, sameName, _⟩
    exact ⟨upper, lower, selected, found, sameName.symm⟩
  · rintro condition counter selects inRange
    rcases Option.some.inj selects with rfl
    rcases condition rfl inRange with ⟨upper, lower, selected, found, sameName⟩
    rcases swipeUp_of_inRange inRange with ⟨location, isFound, announces⟩
    rw [found] at isFound
    rcases Except.ok.inj isFound with rfl
    rw [← sameName] at announces
    exact ⟨_, upper, announces, selected, visionViewController_of_subscript selected⟩

theorem swipeLaw_iff (before : HomeViewController) (event : Event) :
    SwipeLaw before event ↔ SwipeCondition before event := by
  cases event with
  | swipe direction =>
      cases direction with
      | up => exact swipeLaw_up_iff before
      | down => exact iff_of_true (swipeLaw_down before) (by simp [SwipeCondition])
      | left => simp [SwipeLaw, SwipeCondition, selecting]
      | right => simp [SwipeLaw, SwipeCondition, selecting]
  | _ => simp [SwipeLaw, SwipeCondition, selecting]

/-- A swipe up that announces what it selects announces, after a swipe down, what was selected
before. -/
theorem pairLaw_of_condition {start : HomeViewController} {events : List Event}
    (condition : machine.Always SwipeCondition start events) : PairLaw start events := by
  rintro earlier later before rfl run inRange belowInRange
  rcases swipeDown_of_inRange belowInRange with ⟨below, _, downHandled⟩
  have down : machine.Step before (.swipe .down) _ _ := ⟨rfl, downHandled⟩
  have moved : InRange
      ({ before with
        locationSelectionCounter :=
          before.locationSelectionCounter + 1 }).locationSelectionCounter
      ({ before with
        locationSelectionCounter := before.locationSelectionCounter + 1 }).localLocationList :=
    belowInRange
  rcases swipeUp_of_inRange moved with ⟨announced, found, upHandled⟩
  have atUp := condition (earlier ++ [.swipe .down]) (.swipe .up) later _ (by simp)
    (run.snoc down) rfl rfl belowInRange
  rcases atUp with ⟨upper, lower, selected, isFound, sameName⟩
  rw [found] at isFound
  rcases Except.ok.inj isFound with rfl
  have back : before.locationSelectionCounter + 1 - 1 = before.locationSelectionCounter := by
    omega
  simp only [back] at selected
  refine ⟨_, _, _, _, upper, down, ⟨rfl, upHandled⟩, selected, ?_⟩
  rw [sameName]
  exact List.mem_cons_self

/-- Swipes announce what they select, and a pair of them what was selected before, exactly when
every swipe up from a row of the list has a row of the same name above it. -/
theorem swipes_iff_condition (start : HomeViewController) (events : List Event) :
    machine.Always SwipeLaw start events ∧ PairLaw start events ↔
      machine.Always SwipeCondition start events := by
  have lawful : machine.Always SwipeLaw start events ↔
      machine.Always SwipeCondition start events := by
    apply Always.congr
    intro before event _ _
    exact swipeLaw_iff before event
  rw [lawful]
  constructor
  · rintro ⟨condition, _⟩
    exact condition
  · intro condition
    exact ⟨condition, pairLaw_of_condition condition⟩

def downAndUp : List Event :=
  [.viewWillAppear [{ locationName := "Lobby" }, { locationName := "Office" }], .swipe .down,
    .swipe .up]

/-- After a swipe down and up "Office" is heard, and "Lobby" is selected. -/
theorem downAndUp_office :
    (∃ before after, machine.Run {} (downAndUp.take 2) before ∧
      machine.Step before (.swipe .up) after
        [.voiceOutput "Office" .voiceCommandInfo, .scrollToRow 0] ∧
      after.visionViewController false =
        .ok { destinationLocation := some { locationName := "Lobby" } }) ∧
      ¬(machine.Always SwipeLaw {} downAndUp ∧ PairLaw {} downAndUp) := by
  refine ⟨⟨_, _, .of_exec rfl, ⟨rfl, rfl⟩, rfl⟩, ?_⟩
  rintro ⟨law, _⟩
  revert law
  apply Always.not_of_exec (downAndUp.take 2) [] rfl rfl
  rw [swipeLaw_up_iff]
  intro condition
  rcases condition rfl (by decide) with ⟨upper, lower, selected, found, sameName⟩
  rcases Except.ok.inj selected with rfl
  rcases Except.ok.inj found with rfl
  exact absurd sameName (by decide)

end VisionApp.HomeViewController
