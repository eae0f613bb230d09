import VisionApp.App.Calls
import VisionApp.App.Notifications
import VisionApp.EventMachine.Since
import VisionApp.ViewController.Requests

/-!
# Where the user is

A swipe to the right on the home screen is the only way to a vision screen; the
back button and a swipe to the left are the ways back. So the screens that were
made, the delegate, the observers and the screen on top can all be read off the
gestures of a run, whatever else happened in it.
-/

namespace VisionApp.App

open EventMachine

def opensVision : Event → Bool
  | .home (.swipe .right) => true
  | _ => false

def leavesVision : Event → Bool
  | .back | .vision _ (.swipe .left) => true
  | _ => false

def navigates : Call → Bool
  | .performSegue | .popViewController => true
  | _ => false

theorem stays_carryOutAll (app : App) {calls : List Call}
    (stays : ∀ call ∈ calls, navigates call = false) :
    (app.carryOutAll calls).1.stack = app.stack ∧
      (app.carryOutAll calls).1.visions = app.visions := by
  apply carryOutAll_related (fun before after =>
    after.stack = before.stack ∧ after.visions = before.visions)
  · exact fun _ => ⟨rfl, rfl⟩
  · rintro before middle after ⟨firstStack, firstVisions⟩ ⟨stack, visions⟩
    exact ⟨stack.trans firstStack, visions.trans firstVisions⟩
  · intro before after call callMem carried
    have stay := stays call callMem
    cases carried with
    | shown => simp [navigates] at stay
    | popped => simp [navigates] at stay
    | _ => exact ⟨rfl, rfl⟩

/-- The stack and the number of vision screens after an event. -/
def moved (event : Event) (stack : List Controller) (screens : ℕ) : List Controller × ℕ :=
  if event = .launch then ([.home], screens)
  else if opensVision event then (.vision screens :: stack, screens + 1)
  else if leavesVision event then (stack.tail, screens)
  else (stack, screens)

section Steps

variable {before after : App} {outputs : List Output}

/-- Calls that do not navigate leave the stack as their callback left it. -/
theorem stays_of_carried {middle : App} {calls : List Call}
    (carried : middle.carryOutAll calls = (after, outputs))
    (stays : ∀ call ∈ calls, navigates call = false) :
    (after.stack, after.visions.length) = (middle.stack, middle.visions.length) := by
  rcases stays_carryOutAll middle stays with ⟨stack, visions⟩
  rw [carried] at stack visions
  rw [stack, visions]

theorem moved_of_home {event : HomeViewController.Event} {home : HomeViewController}
    {requests : List HomeViewController.Output} (isEnabled : before.enabledHome event = true)
    (handled : before.home.handle event = .ok (home, requests))
    (carried : ({ before with home := home } : App).carryOutAll (requests.map homeCall) =
      (after, outputs)) :
    (after.stack, after.visions.length) =
      moved (.home event) before.stack before.visions.length := by
  have stayed (stays : ∀ call ∈ requests.map homeCall, navigates call = false) :
      (after.stack, after.visions.length) = (before.stack, before.visions.length) := by
    rw [stays_of_carried carried stays]
  cases HomeViewController.asks_of_handle handled with
  | segue opens =>
      have isSwipe : event = .swipe .right := by
        cases event with
        | swipe direction =>
            cases direction <;> first | rfl | simp [HomeViewController.opensVision] at opens
        | navigateToVision isLocalLocation => simp [enabledHome] at isEnabled
        | _ => simp [HomeViewController.opensVision] at opens
      subst isSwipe
      have shown : after = ({ before with home := home } : App).performSegue :=
        (congrArg Prod.fst carried).symm
      rw [shown, performSegue_eq]
      simp [moved, opensVision]
  | nothing notGesture =>
      rw [stayed (by simp)]
      cases event <;> first | rfl | simp [HomeViewController.isGesture] at notGesture
  | announcement announces message =>
      rw [stayed (by simp [homeCall, navigates])]
      cases event <;> first | rfl | simp [HomeViewController.announcesSelection] at announces
  | selection direction message row vertical =>
      rw [stayed (by simp [homeCall, navigates])]
      rcases vertical with rfl | rfl <;> rfl
  | save => exact stayed (by simp [homeCall, navigates])
  | whereAmI => exact stayed (by simp [homeCall, navigates])
  | prompt => exact stayed (by simp [homeCall, navigates])

theorem moved_of_vision {screen : ℕ} {event : VisionViewController.Event}
    {controller reached : VisionViewController}
    {requests asked : List VisionViewController.Output}
    (handled : controller.handle event = .ok (reached, requests))
    (received : before.unlessGone screen event requests = asked)
    (carried : ({ before with visions := before.visions.set screen reached } : App).carryOutAll
      (asked.map visionCall) = (after, outputs)) :
    (after.stack, after.visions.length) =
      moved (.vision screen event) before.stack before.visions.length := by
  have stayed (stays : ∀ call ∈ asked.map visionCall, navigates call = false) :
      (after.stack, after.visions.length) = (before.stack, before.visions.length) := by
    rw [stays_of_carried carried stays, List.length_set]
  cases asks_of_unlessGone (VisionViewController.asks_of_handle handled) received with
  | leave =>
      have popped : after = (({ before with
          visions := before.visions.set screen reached } : App).voiceOutput
            "Taking you to home Screen" .voiceCommandInfo).popViewController :=
        (congrArg Prod.fst carried).symm
      rw [popped]
      simp [moved, opensVision, leavesVision, popViewController, homeViewWillAppear, voiceOutput]
  | nothing notSave notLeave =>
      rw [stayed (by simp)]
      cases event with
      | swipe direction =>
          cases direction with
          | left => exact absurd rfl notLeave
          | _ => simp [moved, opensVision, leavesVision]
      | _ => simp [moved, opensVision, leavesVision]
  | save => exact stayed (by simp [visionCall, navigates])
  | whereAmI => exact stayed (by simp [visionCall, navigates])
  | detection message => exact stayed (by simp [visionCall, navigates])

theorem moved_of_step {event : Event} (navigated : before.Navigated)
    (step : machine.Step before event after outputs) :
    (after.stack, after.visions.length) = moved event before.stack before.visions.length := by
  rcases delivered_of_step navigated step with ⟨middle, calls, delivered, carried⟩
  have stayed := stays_of_carried carried
  cases delivered with
  | home isEnabled handled => exact moved_of_home isEnabled handled carried
  | vision present isEnabled handled received => exact moved_of_vision handled received carried
  | launch notLaunched => exact stayed (by simp)
  | back covered =>
      have popped : after = before.popViewController := (congrArg Prod.fst carried).symm
      rw [popped]
      rfl
  | speech isEnabled received =>
      apply stayed
      intro call callMem
      rcases delegate_of_speechCall callMem with ⟨receiver, asked, _, rfl⟩
      rfl
  | location isEnabled handled =>
      apply stayed
      intro call callMem
      rcases List.mem_map.mp callMem with ⟨request, _, rfl⟩
      cases request <;> rfl
  | whereAmIBlock pending => exact stayed (by simp [navigates])

end Steps

theorem Navigated.length_le {app : App} (navigated : app.Navigated) : app.stack.length ≤ 2 := by
  rcases navigated.stack with empty | atHome | ⟨screen, _, onVision⟩
  · simp [empty]
  · simp [atHome]
  · simp [onVision]

/-- A vision screen is on top exactly while the stack has two controllers. -/
theorem Navigated.onVision_iff {app : App} (navigated : app.Navigated) :
    1 < app.stack.length ↔
      ∃ screen, screen + 1 = app.visions.length ∧ app.onScreen = some (.vision screen) := by
  rcases navigated.stack with empty | atHome | ⟨screen, newest, onVision⟩
  · simp [onScreen, empty]
  · simp [onScreen, atHome]
  · refine iff_of_true (by simp [onVision]) ⟨screen, newest, ?_⟩
    simp [onScreen, onVision]

theorem onVision_of_step {before after : App} {event : Event} {outputs : List Output}
    (navigated : before.Navigated) (step : machine.Step before event after outputs) :
    1 < after.stack.length ↔
      opensVision event = true ∨ 1 < before.stack.length ∧ leavesVision event = false := by
  have stack := congrArg Prod.fst (moved_of_step navigated step)
  simp only [moved] at stack
  have bounded := navigated.length_le
  by_cases isLaunch : event = .launch
  · subst isLaunch
    have notLaunched : before.stack = [] := by
      simpa [machine, enabled] using step.1
    rw [if_pos rfl] at stack
    simp [stack, notLaunched, opensVision]
  · rw [if_neg isLaunch] at stack
    by_cases opens : opensVision event = true
    · have fromHome : before.onScreen = some .home := by
        have isEnabled := step.1
        cases event with
        | home event =>
            cases event with
            | swipe direction => simpa [machine, enabled, enabledHome] using isEnabled
            | _ => simp [opensVision] at opens
        | _ => simp [opensVision] at opens
      have nonempty : before.stack ≠ [] := by
        intro empty
        simp [onScreen, empty] at fromHome
      have below := List.length_pos_of_ne_nil nonempty
      simp only [opens, if_true] at stack
      simp only [stack, List.length_cons, opens, true_or, iff_true]
      omega
    · rw [if_neg opens] at stack
      by_cases leaves : leavesVision event = true
      · rw [if_pos leaves] at stack
        simp only [stack, List.length_tail, opens, leaves]
        simp
        omega
      · rw [if_neg leaves] at stack
        simp [stack, opens, leaves]

theorem countP_opensVision {realm : RealmManager} {events : List Event} {app : App}
    (run : machine.Run (start realm) events app) :
    app.visions.length = events.countP opensVision := by
  induction run with
  | refl => rfl
  | @snoc events before after event outputs earlier step ih =>
      have screens := congrArg Prod.snd
        (moved_of_step (navigated_of_reachable earlier.reachable) step)
      simp only [moved] at screens
      rw [List.countP_append, List.countP_singleton, screens, ih]
      split
      · rename_i isLaunch
        subst isLaunch
        rfl
      · split
        · rfl
        · split <;> rfl

/-- In every run, the app has made one vision screen for every swipe to the right at home, all of
them registered for notifications, and the newest has the commands. It is on top exactly if nobody
has gone back since it was opened. -/
theorem navigation_of_run {realm : RealmManager} {events : List Event} {app : App}
    (run : machine.Run (start realm) events app) :
    app.visions.length = events.countP opensVision ∧
      app.observers = List.range (events.countP opensVision) ∧
      (∀ receiver, app.visionDelegate = some receiver ↔
        ∃ screen, screen + 1 = events.countP opensVision ∧ receiver = .vision screen) ∧
      ((∃ screen, screen + 1 = events.countP opensVision ∧
          app.onScreen = some (.vision screen)) ↔
        machine.Since (fun _ event => opensVision event) leavesVision (start realm) events) := by
  have navigated := navigated_of_reachable run.reachable
  rw [← countP_opensVision run]
  refine ⟨rfl, registered_of_reachable run.reachable, navigated.delegate, ?_⟩
  rw [← navigated.onVision_iff, ← decide_eq_true_iff (p := 1 < app.stack.length)]
  apply Machine.Run.flag_iff_since (fun app => decide (1 < app.stack.length)) _ rfl run
  intro before event after outputs reached step
  simp only [decide_eq_true_eq]
  exact onVision_of_step (navigated_of_reachable reached) step

def walkTwice : List Event :=
  [.launch, .home (.swipe .right), .vision 0 (.swipe .left), .home (.swipe .right), .vision 1 .tap]

theorem walkTwice_navigated :
    ∃ app, machine.Run (start {}) walkTwice app ∧ app.visions.length = 2 ∧
      app.observers = List.range 2 ∧
      machine.Since (fun _ event => opensVision event) leavesVision (start {}) walkTwice := by
  have run : machine.Run (start {}) walkTwice ((machine.exec (start {}) walkTwice).getD {}) :=
    .of_exec rfl
  have navigation := navigation_of_run run
  exact ⟨_, run, navigation.1, navigation.2.1, navigation.2.2.2.mp ⟨1, rfl, rfl⟩⟩

end VisionApp.App
