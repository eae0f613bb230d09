import VisionApp.App.Calls
import VisionApp.App.Destination
import VisionApp.Location.Guidance

/-!
# What reaches the vision screens

Every vision screen registers for the next-move notifications in `viewDidLoad`
and none ever unregisters. The newest one always exists, being the delegate, so
from the first segue on every notification has an observer, and several
observers say it only once.

Routes are asked for by nobody in the app. Left to itself it therefore has
nothing to notify of but the loss of its position.
-/

namespace VisionApp

namespace LocationManager

/-- The public operations that lead to a route, none of which the app calls on its own. -/
def asksRoute : Event → Bool
  | .setDestinationCoordinate _ | .takeMeThere | .initRoute | .showRoute _ => true
  | _ => false

/-- No route was asked for, and no location update will ask for one. -/
structure Unrouted (manager : LocationManager) : Prop where
  flags : manager.FlagsInitial
  destination : manager.destinationCoordinate = {}
  directions : manager.directions = []

theorem unrouted_reaction {before after : LocationManager} {event : Event}
    {outputs : List Output} (unrouted : before.Unrouted) (isEnabled : before.enabled event = true)
    (ownEvent : asksRoute event = false)
    (notOpened : ∀ controller, event ≠ .visionWillAppear controller)
    (reaction : Reaction before event after outputs) :
    after.Unrouted ∧ ∀ nexStep, .post nexStep ∈ outputs →
      event = .didFailWithError ∧ outputs = [.post lostMessage] := by
  rcases unrouted with ⟨flags, destination, directions⟩
  cases reaction with
  | didUpdateLocations updated =>
      rcases didUpdateLocations_of_flagsInitial flags updated with ⟨location, rfl⟩
      exact ⟨⟨flags, destination, directions⟩, by simp⟩
  | didFailWithError => exact ⟨⟨flags, destination, directions⟩, by simp⟩
  | directionsAnswered showed => simp [enabled, directions] at isEnabled
  | directionsFailed index => simp [enabled, directions] at isEnabled
  | geocoded answered =>
      rcases geocoded_frame answered with ⟨addressString, rfl⟩
      refine ⟨⟨flags, destination, directions⟩, ?_⟩
      intro nexStep postMem
      simp at postMem
  | getUserLocatoin => exact ⟨⟨flags, destination, directions⟩, by simp⟩
  | visionWillAppear controller => exact absurd rfl (notOpened controller)
  | showRoute showed => simp [asksRoute] at ownEvent
  | setDestinationCoordinate newValue => simp [asksRoute] at ownEvent
  | takeMeThere => simp [asksRoute] at ownEvent
  | initRoute => simp [asksRoute] at ownEvent

/-- A callback that posts does not complete an address. -/
theorem posts_of_asked {before after : LocationManager} {event : Event} {outputs : List Output}
    {nexStep : String} (reaction : Reaction before event after outputs)
    (asked : .post nexStep ∈ outputs) :
    ∃ first rest, outputs = (first :: rest).map Output.post := by
  have nonempty {messages : List String} (asked : .post nexStep ∈ messages.map Output.post) :
      ∃ first rest, messages.map Output.post = (first :: rest).map Output.post := by
    cases messages with
    | nil => simp at asked
    | cons first rest => exact ⟨first, rest, rfl⟩
  cases reaction with
  | didFailWithError => exact ⟨lostMessage, [], rfl⟩
  | showRoute showed => exact nonempty asked
  | directionsAnswered showed => exact nonempty asked
  | geocoded answered => simp at asked
  | didUpdateLocations updated => simp at asked
  | visionWillAppear controller => simp at asked
  | setDestinationCoordinate newValue => simp at asked
  | takeMeThere => simp at asked
  | initRoute => simp at asked
  | directionsFailed index => simp at asked
  | getUserLocatoin => simp at asked

end LocationManager

namespace App

open EventMachine

section Observers

/-- Every screen registered, in the order in which they were opened. -/
def Registered (app : App) : Prop :=
  app.observers = List.range app.visions.length

theorem Effect.registered {before after : App} (effect : Effect before after)
    (registered : before.Registered) : after.Registered := by
  simp only [Registered] at registered ⊢
  cases effect with
  | present fromHome =>
      simp only [List.length_append, List.length_singleton, List.range_succ]
      rw [registered]
  | vision updated present sameDestination =>
      rw [List.length_set]
      exact registered
  | _ => exact registered

theorem registered_of_reachable {realm : RealmManager} {app : App}
    (reached : machine.Reachable (start realm) app) : app.Registered :=
  invariant_of_effect (fun _ _ effect registered => effect.registered registered) rfl reached

/-- There is a live observer as soon as a vision screen has been opened. -/
theorem liveObservers_eq_nil_iff {realm : RealmManager} {app : App}
    (reached : machine.Reachable (start realm) app) :
    app.liveObservers = [] ↔ app.visions = [] := by
  constructor
  · intro unobserved
    by_contra opened
    have present := List.length_pos_of_ne_nil opened
    have isDelegate : app.visionDelegate = some (.vision (app.visions.length - 1)) := by
      apply ((navigated_of_reachable reached).delegate _).mpr
      exact ⟨app.visions.length - 1, by omega, rfl⟩
    have observes : app.visions.length - 1 ∈ app.observers := by
      rw [registered_of_reachable reached, List.mem_range]
      omega
    have newest : app.visions.length - 1 ∈ app.liveObservers := by
      apply List.mem_filter.mpr
      exact ⟨observes, by simp [isAlive, isDelegate]⟩
    simp [unobserved] at newest
  · intro unopened
    have registered := registered_of_reachable reached
    simp only [Registered, unopened, List.length_nil, List.range_zero] at registered
    rw [liveObservers, registered, List.filter_nil]

theorem carryOutAll_posts (app : App) (messages : List String) :
    (app.carryOutAll (messages.map Call.post)).2 = messages.map Output.post := by
  induction messages generalizing app with
  | nil => rfl
  | cons nexStep rest ih =>
      simp only [List.map_cons, carryOutAll, carryOut, ih]
      rfl

theorem speechManager_posts (app : App) (nexStep : String) (rest : List String) :
    (app.carryOutAll ((nexStep :: rest).map Call.post)).1.speechManager =
      if app.liveObservers = [] then app.speechManager
      else app.speechManager.voiceOutput nexStep .voiceCommandInfo := by
  induction rest generalizing app nexStep with
  | nil =>
      simp only [List.map_singleton, carryOutAll, carryOut, post_eq]
  | cons next rest ih =>
      have later := ih (app.post nexStep) next
      rw [liveObservers_post] at later
      have first : (app.carryOutAll ((nexStep :: next :: rest).map Call.post)).1 =
          ((app.post nexStep).carryOutAll ((next :: rest).map Call.post)).1 := rfl
      rw [first, later, post_eq]
      split
      · rfl
      · exact voiceOutput_voiceOutput _ _ _ _ _

end Observers

section Posts

theorem post_of_carryOut {app : App} {call : Call} {nexStep : String}
    (outputMem : .post nexStep ∈ (app.carryOut call).2) : call = .post nexStep := by
  cases call with
  | whereAmI => cases isDelegate : app.visionDelegate <;> simp [carryOut, isDelegate] at outputMem
  | _ => simp_all [carryOut, saveThisLocation]

/-- Only the location manager posts. -/
theorem post_of_delivered {before middle : App} {event : Event} {calls : List Call}
    {nexStep : String} (delivered : Delivered before event middle calls)
    (postMem : .post nexStep ∈ calls) :
    ∃ callback manager requests, event = .location callback ∧
      middle = { before with locationManager := manager } ∧ calls = requests.map locationCall ∧
      before.enabledLocation callback = true ∧ .post nexStep ∈ requests ∧
      before.locationManager.handle callback = .ok (manager, requests) := by
  cases delivered with
  | @location callback manager requests isEnabled handled =>
      refine ⟨callback, manager, requests, rfl, rfl, rfl, isEnabled, ?_, handled⟩
      rcases List.mem_map.mp postMem with ⟨request, requestMem, same⟩
      cases request with
      | post message =>
          rcases Call.post.inj same with rfl
          exact requestMem
      | completion location => simp [locationCall] at same
  | launch notLaunched => simp at postMem
  | home isEnabled handled =>
      rcases List.mem_map.mp postMem with ⟨request, _, same⟩
      cases request <;> simp [homeCall] at same
  | vision present isEnabled handled received =>
      rcases List.mem_map.mp postMem with ⟨request, _, same⟩
      cases request <;> simp [visionCall] at same
  | back covered => simp at postMem
  | speech isEnabled received =>
      rcases delegate_of_speechCall postMem with ⟨_, _, _, same⟩
      simp at same
  | whereAmIBlock pending => simp at postMem

/-- A step that posts is a callback of the location manager that does nothing else, and the first
message is all that is spoken of its notifications. -/
theorem posting_of_step {realm : RealmManager} {before after : App} {event : Event}
    {outputs : List Output} {nexStep : String} (reached : machine.Reachable (start realm) before)
    (step : machine.Step before event after outputs) (posted : .post nexStep ∈ outputs) :
    ∃ callback manager first rest, event = .location callback ∧
      before.enabledLocation callback = true ∧
      before.locationManager.handle callback =
        .ok (manager, (first :: rest).map LocationManager.Output.post) ∧
      outputs = (first :: rest).map Output.post ∧
      after.speechManager =
        if before.visions = [] then before.speechManager
        else before.speechManager.voiceOutput first .voiceCommandInfo := by
  rcases delivered_of_step (navigated_of_reachable reached) step with
    ⟨middle, calls, delivered, carried⟩
  have madePost : .post nexStep ∈ calls := by
    have postedIn : .post nexStep ∈ (middle.carryOutAll calls).2 := by
      rw [carried]
      exact posted
    rcases mem_carryOutAll postedIn with ⟨call, callMem, between, output⟩
    rwa [post_of_carryOut output] at callMem
  rcases post_of_delivered delivered madePost with
    ⟨callback, manager, requests, rfl, rfl, rfl, isEnabled, asked, handled⟩
  rcases LocationManager.posts_of_asked (LocationManager.reaction_of_handle handled) asked with
    ⟨first, rest, rfl⟩
  have madeCalls : ((first :: rest).map LocationManager.Output.post).map locationCall =
      (first :: rest).map Call.post := by
    rw [List.map_map]
    rfl
  rw [madeCalls] at carried
  refine ⟨callback, manager, first, rest, rfl, isEnabled, handled, ?_, ?_⟩
  · rw [← carryOutAll_posts { before with locationManager := manager } (first :: rest), carried]
  · have spoken := speechManager_posts { before with locationManager := manager } first rest
    have sameObservers : ({ before with locationManager := manager } : App).liveObservers =
        before.liveObservers := rfl
    simp only [carried, sameObservers, liveObservers_eq_nil_iff reached] at spoken
    exact spoken

/-- However many vision screens have registered, at most the first message that a step posts is
offered to the user, once, and it is offered as soon as a vision screen has ever been opened. -/
theorem posted_once {realm : RealmManager} {before after : App} {event : Event}
    {outputs : List Output} {nexStep : String} {rest : List String}
    (reached : machine.Reachable (start realm) before)
    (step : machine.Step before event after outputs)
    (posted : outputs.filterMap postedText = nexStep :: rest) :
    after.speechManager =
      if before.visions = [] then before.speechManager
      else before.speechManager.voiceOutput nexStep .voiceCommandInfo := by
  have isPosted : .post nexStep ∈ outputs := by
    have textMem : nexStep ∈ outputs.filterMap postedText := by
      rw [posted]
      exact List.mem_cons_self
    rcases List.mem_filterMap.mp textMem with ⟨output, outputMem, text⟩
    cases output with
    | post message =>
        rcases Option.some.inj text with rfl
        exact outputMem
    | delegate receiver call => simp [postedText] at text
    | scrollToRow row => simp [postedText] at text
    | saveLocation location => simp [postedText] at text
  rcases posting_of_step reached step isPosted with
    ⟨callback, manager, first, others, rfl, _, _, rfl, spoken⟩
  have texts : ((first :: others).map Output.post).filterMap postedText = first :: others := by
    simp [postedText, Function.comp_def]
  rw [texts] at posted
  rcases List.cons.inj posted with ⟨rfl, _⟩
  exact spoken

def twoScreens : List Event :=
  [.launch, .home (.swipe .right), .back, .home (.swipe .right), .location .takeMeThere]

theorem twoScreens_once :
    ∃ before after, machine.Reachable (start {}) before ∧ before.observers = [0, 1] ∧
      machine.Step before (.location .didFailWithError) after
        [.post LocationManager.lostMessage] ∧
      after.speechManager = if before.visions = [] then before.speechManager
        else before.speechManager.voiceOutput LocationManager.lostMessage .voiceCommandInfo := by
  have reached : machine.Reachable (start {}) ((machine.exec (start {}) twoScreens).getD {}) :=
    ⟨twoScreens, .of_exec rfl⟩
  have step : machine.Step ((machine.exec (start {}) twoScreens).getD {})
      (.location .didFailWithError)
      ((machine.exec (start {}) (twoScreens ++ [.location .didFailWithError])).getD {})
      [.post LocationManager.lostMessage] := ⟨rfl, rfl⟩
  exact ⟨_, _, reached, rfl, step, posted_once reached step rfl⟩

end Posts

section OwnEvents

/-- The event is a call of a public operation that leads to a route. -/
def asksRoute : Event → Bool
  | .location event => LocationManager.asksRoute event
  | _ => false

theorem unrouted_carryOutAll (app : App) (calls : List Call)
    (unrouted : app.locationManager.Unrouted) :
    (app.carryOutAll calls).1.locationManager.Unrouted := by
  have called : app.locationManager.Unrouted →
      (app.carryOutAll calls).1.locationManager.Unrouted := by
    apply carryOutAll_related (fun before after =>
      before.locationManager.Unrouted → after.locationManager.Unrouted)
    · exact fun _ => id
    · intro before middle after first second
      exact second ∘ first
    · intro before after call _ carried unrouted
      cases carried with
      | located => exact ⟨unrouted.flags, unrouted.destination, unrouted.directions⟩
      | _ => exact unrouted
  exact called unrouted

theorem unrouted_of_step {before after : App} {event : Event} {outputs : List Output}
    (navigated : before.Navigated) (unrouted : before.locationManager.Unrouted)
    (ownEvent : asksRoute event = false) (step : machine.Step before event after outputs) :
    after.locationManager.Unrouted := by
  rcases delivered_of_step navigated step with ⟨middle, calls, delivered, carried⟩
  have reached : middle.locationManager.Unrouted → after.locationManager.Unrouted := by
    intro middleUnrouted
    have called := unrouted_carryOutAll middle calls middleUnrouted
    rwa [carried] at called
  apply reached
  cases delivered with
  | @location event manager requests isEnabled handled =>
      have outstanding : before.locationManager.enabled event = true := by
        cases event <;> simp_all [enabledLocation]
      have notOpened (controller : VisionViewController) :
          event ≠ .visionWillAppear controller := by
        rintro rfl
        simp [enabledLocation] at isEnabled
      exact (LocationManager.unrouted_reaction unrouted outstanding ownEvent notOpened
        (LocationManager.reaction_of_handle handled)).1
  | launch notLaunched => exact unrouted
  | home isEnabled handled => exact unrouted
  | vision present isEnabled handled received => exact unrouted
  | back covered => exact unrouted
  | speech isEnabled received => exact unrouted
  | whereAmIBlock pending => exact unrouted

/-- Unless its routes are asked for from outside, the app never has a destination or a route
request, and the loss of its position is all that it ever notifies of. That is offered to the user
once if a vision screen was ever opened, and otherwise not at all. -/
theorem notifies_lost_only {realm : RealmManager} {events : List Event} {app after : App}
    {event : Event} {outputs : List Output}
    (run : machine.Run (start realm) events app)
    (ownEvents : ∀ earlier ∈ events, asksRoute earlier = false) (ownEvent : asksRoute event = false)
    (step : machine.Step app event after outputs) :
    (app.locationManager.destinationCoordinate = {} ∧ app.locationManager.directions = []) ∧
      ∀ nexStep, .post nexStep ∈ outputs →
        event = .location .didFailWithError ∧ outputs = [.post LocationManager.lostMessage] ∧
        after.speechManager =
          if app.visions = [] then app.speechManager
          else app.speechManager.voiceOutput LocationManager.lostMessage .voiceCommandInfo := by
  have unrouted : app.locationManager.Unrouted := by
    clear step
    induction run with
    | refl => exact ⟨⟨rfl, rfl⟩, rfl, rfl⟩
    | snoc earlier last ih =>
        have before := ih (fun event eventMem => ownEvents event (by simp [eventMem]))
        exact unrouted_of_step (navigated_of_reachable earlier.reachable) before
          (ownEvents _ (by simp)) last
  refine ⟨⟨unrouted.destination, unrouted.directions⟩, ?_⟩
  intro nexStep posted
  rcases posting_of_step run.reachable step posted with
    ⟨callback, manager, first, rest, rfl, isEnabled, handled, rfl, spoken⟩
  have outstanding : app.locationManager.enabled callback = true := by
    cases callback <;> simp_all [enabledLocation]
  have notOpened (controller : VisionViewController) : callback ≠ .visionWillAppear controller := by
    rintro rfl
    simp [enabledLocation] at isEnabled
  rcases (LocationManager.unrouted_reaction unrouted outstanding ownEvent notOpened
    (LocationManager.reaction_of_handle handled)).2 first (by simp) with ⟨rfl, single⟩
  simp only [List.map_cons, List.cons.injEq, LocationManager.Output.post.injEq,
    List.map_eq_nil_iff] at single
  rcases single with ⟨rfl, rfl⟩
  exact ⟨rfl, rfl, spoken⟩

def walkAndLose : List Event :=
  [.launch, .home (.swipe .right), .location (.didUpdateLocations [{}])]

theorem walkAndLose_notifies :
    ∃ app after, machine.Run (start {}) walkAndLose app ∧
      machine.Step app (.location .didFailWithError) after [.post LocationManager.lostMessage] ∧
      after.speechManager = if app.visions = [] then app.speechManager
        else app.speechManager.voiceOutput LocationManager.lostMessage .voiceCommandInfo := by
  have run : machine.Run (start {}) walkAndLose
      ((machine.exec (start {}) walkAndLose).getD {}) := .of_exec rfl
  have step : machine.Step ((machine.exec (start {}) walkAndLose).getD {})
      (.location .didFailWithError)
      ((machine.exec (start {}) (walkAndLose ++ [.location .didFailWithError])).getD {})
      [.post LocationManager.lostMessage] := ⟨rfl, rfl⟩
  have ownEvents : ∀ earlier ∈ walkAndLose, asksRoute earlier = false := by
    simp [walkAndLose, asksRoute, LocationManager.asksRoute]
  have notified := notifies_lost_only run ownEvents rfl step
  exact ⟨_, _, run, step, (notified.2 _ (List.mem_singleton.mpr rfl)).2.2⟩

end OwnEvents

end App

end VisionApp
