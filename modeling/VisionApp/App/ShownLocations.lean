import VisionApp.App.SavedPlaces
import VisionApp.ViewController.Selection

/-!
# Where the list on the home screen comes from

The list is replaced when the screen appears, when the search timer runs and
when an online search is answered. It holds saved locations in the order of the
store, or what one search found, and never a mixture.
-/

namespace VisionApp.App

open EventMachine
open scoped List

/-- The locations of an answered online search. -/
def found : Event → Option (List LocationModel)
  | .home (.searchCompleted _ (some mapItems)) => (LocationManager.searchResults mapItems).toOption
  | _ => none

/-- A list that the home screen may show: none before the launch, what the store held at some moment
of the run, the part of it that the text of the search bar selected when the search timer ran, or
what an online search found. -/
inductive Shown (realm : RealmManager) (events : List Event) : List LocationModel → Prop where
  | unlaunched (notLaunched : .launch ∉ events) : Shown realm events []
  | stored {earlier : List Event} {before : App} (isPrefix : earlier <+: events)
      (run : machine.Run (start realm) earlier before) :
      Shown realm events before.realm.locations
  | searched {earlier : List Event} {before : App} {saved : List LocationModel}
      (isPrefix : earlier ++ [.home (.searchTimer saved)] <+: events)
      (run : machine.Run (start realm) earlier before) :
      Shown realm events
        (HomeViewController.filterLocations before.realm.locations before.home.searchBarText)
  | online {event : Event} {locations : List LocationModel} (eventMem : event ∈ events)
      (answered : found event = some locations) : Shown realm events locations

theorem Shown.later {realm : RealmManager} {events : List Event} {locations : List LocationModel}
    (shown : Shown realm events locations) {event : Event} (notLaunch : event ≠ .launch) :
    Shown realm (events ++ [event]) locations := by
  have longer := List.prefix_append events [event]
  cases shown with
  | unlaunched notLaunched =>
      apply Shown.unlaunched
      simp [notLaunched, notLaunch.symm]
  | stored isPrefix run => exact .stored (isPrefix.trans longer) run
  | searched isPrefix run => exact .searched (isPrefix.trans longer) run
  | online eventMem answered => exact .online (List.mem_append_left [event] eventMem) answered

/-- What calls leave on the home screen: the same list, or what the store held meanwhile. -/
def Relisted (before after : App) : Prop :=
  before.realm.locations <+: after.realm.locations ∧
    (after.home.localLocationList = before.home.localLocationList ∨
      before.realm.locations <+: after.home.localLocationList ∧
        after.home.localLocationList <+: after.realm.locations)

theorem Relisted.refl (app : App) : Relisted app app :=
  ⟨List.prefix_rfl, Or.inl rfl⟩

theorem Relisted.trans {before middle after : App} (first : Relisted before middle)
    (second : Relisted middle after) : Relisted before after := by
  rcases first with ⟨grown, listed⟩
  rcases second with ⟨grownLater, same | ⟨fromStore, ofStore⟩⟩
  · refine ⟨grown.trans grownLater, ?_⟩
    rw [same]
    rcases listed with sameBefore | ⟨fromEarlierStore, ofEarlierStore⟩
    · exact Or.inl sameBefore
    · exact Or.inr ⟨fromEarlierStore, ofEarlierStore.trans grownLater⟩
  · exact ⟨grown.trans grownLater, Or.inr ⟨grown.trans fromStore, ofStore⟩⟩

theorem relisted_carried {before after : App} {call : Call} (carried : Carried before call after) :
    Relisted before after := by
  cases carried with
  | saved => exact ⟨List.prefix_append _ _, Or.inl rfl⟩
  | popped => exact ⟨List.prefix_rfl, Or.inr ⟨List.prefix_rfl, List.prefix_rfl⟩⟩
  | _ => exact .refl before

theorem relisted_carryOutAll (app : App) (calls : List Call) :
    Relisted app (app.carryOutAll calls).1 :=
  carryOutAll_related Relisted .refl .trans (fun _ carried => relisted_carried carried)

section Steps

variable {realm : RealmManager} {events : List Event} {before after : App}

/-- What a handler of the home screen leaves of its list. -/
theorem shown_of_reaction {home : HomeViewController} {event : HomeViewController.Event}
    (run : machine.Run (start realm) events before) (isEnabled : before.enabledHome event = true)
    (shown : Shown realm events before.home.localLocationList)
    (reaction : HomeViewController.Reaction before.home event home) :
    Shown realm (events ++ [.home event]) home.localLocationList := by
  have same : Shown realm (events ++ [.home event]) before.home.localLocationList :=
    shown.later (by simp)
  cases reaction with
  | searchTimer saved =>
      simp only [enabledHome, Bool.and_eq_true, decide_eq_true_eq] at isEnabled
      rw [HomeViewController.searchTimerBlock_eq]
      simp only [HomeViewController.searchedLocations, isEnabled.1]
      split
      · exact .searched List.prefix_rfl run
      · exact .stored (List.prefix_append events _) run
  | @answered index mapItems search locations counter outstanding converted =>
      apply Shown.online (List.mem_append_right events (List.mem_singleton.mpr rfl))
      simp [found, converted, Except.toOption]
  | viewWillAppear saved => simp [enabledHome] at isEnabled
  | navigateToVision isLocalLocation => simp [enabledHome] at isEnabled
  | nothingSaid counter => simp [enabledHome] at isEnabled
  | filtered counter isSaid some => simp [enabledHome] at isEnabled
  | notFound isSaid nothing => simp [enabledHome] at isEnabled
  | textDidChange searchText =>
      rw [HomeViewController.textDidChange_eq]
      exact same
  | swipe direction counter => exact same
  | tap => exact same
  | longPress => exact same
  | unanswered nothing => exact same
  | tableLayout => exact same
  | cellForRowAt inRange => exact same

/-- A step saves at most one location, so what the store holds in it, it holds before or after. -/
theorem shown_of_between {event : Event} {outputs : List Output} {locations : List LocationModel}
    (run : machine.Run (start realm) events before)
    (step : machine.Step before event after outputs)
    (fromStore : before.realm.locations <+: locations)
    (ofStore : locations <+: after.realm.locations) :
    Shown realm (events ++ [event]) locations := by
  have grown := realm_of_step (navigated_of_reachable run.reachable) step
  have asBefore (ofBefore : locations <+: before.realm.locations) :
      Shown realm (events ++ [event]) locations := by
    rw [ofBefore.eq_of_length_le fromStore.length_le]
    exact .stored (List.prefix_append events [event]) run
  split at grown
  · rw [grown, List.prefix_concat_iff] at ofStore
    rcases ofStore with isAfter | ofBefore
    · rw [isAfter, ← grown]
      exact .stored List.prefix_rfl (run.snoc step)
    · exact asBefore ofBefore
  · rw [grown, List.append_nil] at ofStore
    exact asBefore ofStore

theorem shown_of_step {event : Event} {outputs : List Output}
    (run : machine.Run (start realm) events before)
    (shown : Shown realm events before.home.localLocationList)
    (step : machine.Step before event after outputs) :
    Shown realm (events ++ [event]) after.home.localLocationList := by
  rcases delivered_of_step (navigated_of_reachable run.reachable) step with
    ⟨middle, calls, delivered, carried⟩
  have relisted := relisted_carryOutAll middle calls
  rw [carried] at relisted
  have called (sameRealm : middle.realm = before.realm)
      (shownMiddle : Shown realm (events ++ [event]) middle.home.localLocationList) :
      Shown realm (events ++ [event]) after.home.localLocationList := by
    rcases relisted with ⟨_, same | ⟨fromStore, ofStore⟩⟩
    · rw [same]
      exact shownMiddle
    · rw [sameRealm] at fromStore
      exact shown_of_between run step fromStore ofStore
  cases delivered with
  | home isEnabled handled =>
      have reaction := HomeViewController.reaction_of_handle handled
      exact called rfl (shown_of_reaction run isEnabled shown reaction)
  | launch notLaunched =>
      have listed : Shown realm (events ++ [.launch]) before.realm.locations :=
        .stored (List.prefix_append events _) run
      exact called rfl listed
  | vision present isEnabled handled received => exact called rfl (shown.later (by simp))
  | back covered => exact called rfl (shown.later (by simp))
  | speech isEnabled received => exact called rfl (shown.later (by simp))
  | location isEnabled handled => exact called rfl (shown.later (by simp))
  | whereAmIBlock pending => exact called rfl (shown.later (by simp))

end Steps

/-- A run never removes a location from the store. -/
theorem locations_grow {realm : RealmManager} {earlier events : List Event} {before app : App}
    (earlierRun : machine.Run (start realm) earlier before)
    (run : machine.Run (start realm) events app) (isPrefix : earlier <+: events) :
    before.realm.locations <+: app.realm.locations := by
  rcases isPrefix with ⟨later, shape⟩
  rcases run.split shape.symm with ⟨middle, middleRun, laterRun⟩
  rw [earlierRun.deterministic middleRun]
  clear run shape
  induction laterRun with
  | refl => exact List.prefix_rfl
  | @snoc steps reached after event outputs sofar step ih =>
      have navigated := navigated_of_reachable (middleRun.trans sofar).reachable
      rw [realm_of_step navigated step]
      exact ih.trans (List.prefix_append _ _)

end VisionApp.App
