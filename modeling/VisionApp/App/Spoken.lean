import VisionApp.App.Addresses
import VisionApp.App.ShownLocations
import VisionApp.Location.Directions
import VisionApp.ViewController.Announcements

/-!
# What the app says

Every part of the app speaks through the one synthesizer. Besides its few fixed
sentences it only says what it can account for: the name of a location that was
saved or found, the addresses that it was answered, an instruction of a route
that it was given, and a label that a screen was sure of.
-/

namespace VisionApp.App

open EventMachine
open scoped List

/-- The sentences that do not depend on the run. -/
def prompts : List String :=
  ["Hi I am Listening", SpeechManager.namePrompt, SpeechManager.placemarkPrompt,
    "Location Saved successfully ", "No more location available", "Taking you to home Screen",
    LocationManager.lostMessage]

/-- A message that the app can account for by the events so far and its store. -/
inductive Spoken (events : List Event) (store : List LocationModel) : String → Prop where
  | prompt {message : String} (isPrompt : message ∈ prompts) : Spoken events store message
  | stored {location : LocationModel} (saved : location ∈ store) :
      Spoken events store location.locationName
  | online {event : Event} {locations : List LocationModel} {location : LocationModel}
      (eventMem : event ∈ events) (answered : found event = some locations)
      (present : location ∈ locations) : Spoken events store location.locationName
  | address {earlier : List Event} {event : Event} {pm : CLPlacemark}
      (isPrefix : earlier ++ [event] <+: events) (answered : firstPlacemark event = some pm) :
      Spoken events store
        ("You are at " ++ LocationManager.addresses (earlier.filterMap firstPlacemark ++ [pm]))
  | instruction {event : LocationManager.Event} {response : DirectionsResponse} {route : MKRoute}
      {step : MKRouteStep} (eventMem : .location event ∈ events)
      (answered : LocationManager.response event = some response)
      (routeMem : route ∈ response.routes) (stepMem : step ∈ route.steps) :
      Spoken events store step.instructions
  | detection {screen : ℕ} {classifications : List VNClassificationObservation}
      {error : Option String} {result : VNClassificationObservation} {label : String}
      (eventMem : .vision screen (.taskPerformed (some classifications) error) ∈ events)
      (resultMem : result ∈ classifications) (sure : 1 / 2 < result.confidence)
      (isLabel : VisionViewController.firstLabel result.identifier = some label) :
      Spoken events store ("Detected " ++ label)

theorem Spoken.later {events : List Event} {store grown : List LocationModel} {message : String}
    (spoken : Spoken events store message) (later : List Event) (isPrefix : store <+: grown) :
    Spoken (events ++ later) grown message := by
  cases spoken with
  | prompt isPrompt => exact .prompt isPrompt
  | stored saved => exact .stored (isPrefix.subset saved)
  | online eventMem answered present =>
      exact .online (List.mem_append_left later eventMem) answered present
  | address earlier answered =>
      exact .address (earlier.trans (List.prefix_append events later)) answered
  | instruction eventMem answered routeMem stepMem =>
      exact .instruction (List.mem_append_left later eventMem) answered routeMem stepMem
  | detection eventMem resultMem sure isLabel =>
      exact .detection (List.mem_append_left later eventMem) resultMem sure isLabel

/-- The name of a location that the home screen may show can be said. -/
theorem Shown.spoken {realm : RealmManager} {events : List Event} {app : App}
    {locations : List LocationModel} {location : LocationModel}
    (run : machine.Run (start realm) events app) (shown : Shown realm events locations)
    (present : location ∈ locations) :
    Spoken events app.realm.locations location.locationName := by
  cases shown with
  | unlaunched notLaunched => simp at present
  | stored isPrefix earlierRun =>
      exact .stored ((locations_grow earlierRun run isPrefix).subset present)
  | searched isPrefix earlierRun =>
      have grown := locations_grow earlierRun run ((List.prefix_append _ _).trans isPrefix)
      exact .stored (grown.subset (List.mem_of_mem_filter present))
  | online eventMem answered => exact .online eventMem answered present

section Calls

/-- What a call offers to the speech manager. -/
def said : Call → Option String
  | .voiceOutput message _ => some message
  | .saveThisLocation => some "Location Saved successfully "
  | .post nexStep => some nexStep
  | _ => none

theorem mem_voiceOutput {manager : SpeechManager} {message spoken : String}
    {commandType : VoiceCommand}
    (queued : spoken ∈ (manager.voiceOutput message commandType).synthesizer) :
    spoken ∈ manager.synthesizer ∨ spoken = message := by
  rw [SpeechManager.voiceOutput_eq] at queued
  rcases List.mem_append.mp queued with old | new
  · exact Or.inl old
  · split at new
    · exact Or.inr (List.mem_singleton.mp new)
    · simp at new

theorem said_carried {before after : App} {call : Call} (carried : Carried before call after)
    {message : String} (queued : message ∈ after.speechManager.synthesizer) :
    message ∈ before.speechManager.synthesizer ∨ said call = some message := by
  cases carried with
  | spoken text commandType =>
      rcases mem_voiceOutput queued with old | rfl
      · exact Or.inl old
      · exact Or.inr rfl
  | notified nexStep =>
      rcases mem_voiceOutput queued with old | rfl
      · exact Or.inl old
      · exact Or.inr rfl
  | saved =>
      rcases mem_voiceOutput queued with old | rfl
      · exact Or.inl old
      · exact Or.inr rfl
  | _ => exact Or.inl queued

theorem said_carryOutAll (app : App) (calls : List Call) :
    ∀ message ∈ (app.carryOutAll calls).1.speechManager.synthesizer,
      message ∈ app.speechManager.synthesizer ∨ ∃ call ∈ calls, said call = some message := by
  apply carryOutAll_related (fun before after => ∀ message ∈ after.speechManager.synthesizer,
    message ∈ before.speechManager.synthesizer ∨ ∃ call ∈ calls, said call = some message)
  · intro app message old
    exact Or.inl old
  · intro before middle after first second message queued
    rcases second message queued with queuedBefore | new
    · exact first message queuedBefore
    · exact Or.inr new
  · intro before after call callMem carried message queued
    rcases said_carried carried queued with old | new
    · exact Or.inl old
    · exact Or.inr ⟨call, callMem, new⟩

end Calls

section Callbacks

variable {before : App} {events : List Event}

theorem spoken_of_home {realm : RealmManager} {app : App} {event : HomeViewController.Event}
    {after : HomeViewController} {requests : List HomeViewController.Output}
    {outputs : List Output} (run : machine.Run (start realm) events before)
    (step : machine.Step before (.home event) app outputs)
    (isEnabled : before.enabledHome event = true)
    (shown : Shown realm events before.home.localLocationList)
    (handled : before.home.handle event = .ok (after, requests))
    {call : Call} (callMem : call ∈ requests.map homeCall)
    {message : String} (isSaid : said call = some message) :
    Spoken (events ++ [.home event]) app.realm.locations message := by
  rcases List.mem_map.mp callMem with ⟨request, requestMem, rfl⟩
  cases request with
  | voiceOutput text commandType =>
      rcases Option.some.inj isSaid with rfl
      rcases HomeViewController.announces_of_handle handled requestMem with rfl | announces
      · exact .prompt (by simp [prompts])
      · rcases announces with rfl | ⟨location, present, rfl⟩
        · exact .prompt (by simp [prompts])
        · have reaction := HomeViewController.reaction_of_handle handled
          have listed := shown_of_reaction run isEnabled shown reaction
          exact listed.spoken (run.snoc step) present
  | saveThisLocation =>
      rcases Option.some.inj isSaid with rfl
      exact .prompt (by simp [prompts])
  | scrollToRow row => simp [homeCall, said] at isSaid
  | performSegue => simp [homeCall, said] at isSaid
  | whereAmI => simp [homeCall, said] at isSaid

theorem spoken_of_vision {realm : RealmManager} (run : machine.Run (start realm) events before)
    {screen : ℕ} {event : VisionViewController.Event} {controller after : VisionViewController}
    {requests asked : List VisionViewController.Output}
    (present : before.visions[screen]? = some controller)
    (handled : controller.handle event = .ok (after, requests))
    (received : before.unlessGone screen event requests = asked)
    {call : Call} (callMem : call ∈ asked.map visionCall)
    {message : String} (isSaid : said call = some message) (store : List LocationModel) :
    Spoken events store message := by
  rcases List.mem_map.mp callMem with ⟨request, requestMem, rfl⟩
  cases request with
  | voiceOutput text commandType =>
      rcases Option.some.inj isSaid with rfl
      rcases VisionViewController.detected_of_handle handled
        (mem_of_unlessGone received requestMem) with rfl | ⟨kept, rfl⟩
      · exact .prompt (by simp [prompts])
      · have screened := screened_run run screen
        rw [present] at screened
        rcases VisionViewController.classified_of_run rfl screened with nothing | classified
        · exact absurd nothing kept
        · rcases classified with ⟨classifications, error, performed, result, resultMem, sure,
            isLabel⟩
          rcases List.mem_filterMap.mp performed with ⟨event, eventMem, isCallback⟩
          cases event with
          | vision onScreen event =>
              simp only [visionCallback, Option.ite_none_right_eq_some, Option.some.injEq]
                at isCallback
              rw [isCallback.2] at eventMem
              exact .detection eventMem resultMem sure isLabel
          | _ => simp [visionCallback] at isCallback
  | saveThisLocation =>
      rcases Option.some.inj isSaid with rfl
      exact .prompt (by simp [prompts])
  | getUserLocatoin => simp [visionCall, said] at isSaid
  | popViewController => simp [visionCall, said] at isSaid

theorem spoken_of_speech {event : SpeechManager.Event}
    (isEnabled : before.enabledSpeech event = true) {message : String}
    (queued : message ∈ (before.speechManager.handle event).1.synthesizer) :
    message ∈ before.speechManager.synthesizer ∨ message ∈ prompts := by
  rw [SpeechManager.synthesizer_handle] at queued
  rcases List.mem_append.mp queued with old | new
  · left
    split at old
    · exact List.mem_of_mem_tail old
    · exact old
  · right
    rw [Option.mem_toList, Option.map_eq_some_iff] at new
    rcases new with ⟨⟨text, commandType⟩, accepted, rfl⟩
    simp only [SpeechManager.accepted, Option.ite_none_right_eq_some] at accepted
    have offered := accepted.2
    cases event with
    | voiceOutput message commandType => simp [enabledSpeech] at isEnabled
    | namePromptBlock =>
        simp only [SpeechManager.offered, Option.some.injEq, Prod.mk.injEq] at offered
        simp [prompts, ← offered.1]
    | voiceInputAction =>
        simp only [SpeechManager.offered, Option.ite_none_right_eq_some, Option.some.injEq,
          Prod.mk.injEq] at offered
        simp [prompts, ← offered.2.1]
    | _ => simp [SpeechManager.offered] at offered

theorem spoken_of_location {realm : RealmManager} (run : machine.Run (start realm) events before)
    {event : LocationManager.Event} {manager : LocationManager}
    {requests : List LocationManager.Output}
    (handled : before.locationManager.handle event = .ok (manager, requests))
    {call : Call} (callMem : call ∈ requests.map locationCall)
    {message : String} (isSaid : said call = some message) (store : List LocationModel) :
    Spoken (events ++ [.location event]) store message := by
  rcases List.mem_map.mp callMem with ⟨request, requestMem, rfl⟩
  have eventMem : .location event ∈ events ++ [.location event] := by simp
  have instruction {response : DirectionsResponse} {messages : List String}
      {asking after : LocationManager} (showed : asking.showRoute response = .ok (after, messages))
      (responds : LocationManager.response event = some response)
      (requestMem : request ∈ messages.map LocationManager.Output.post) :
      Spoken (events ++ [.location event]) store message := by
    rcases List.mem_map.mp requestMem with ⟨text, textMem, rfl⟩
    rcases Option.some.inj isSaid with rfl
    rcases LocationManager.showRoute_source showed textMem with ⟨route, routeMem, stepMem⟩
    exact .instruction eventMem responds routeMem stepMem
  cases LocationManager.reaction_of_handle handled with
  | showRoute showed => exact instruction showed rfl requestMem
  | directionsAnswered showed => exact instruction showed rfl requestMem
  | didFailWithError =>
      rcases List.mem_singleton.mp requestMem with rfl
      rcases Option.some.inj isSaid with rfl
      exact .prompt (by simp [prompts])
  | @geocoded index placemarksArray after location answered =>
      match placemarksArray with
      | none => simp [LocationManager.geocoded] at answered
      | some [] =>
          simp only [LocationManager.geocoded, Except.ok.injEq, Prod.mk.injEq] at answered
          simp [← answered.2] at requestMem
      | some (pm :: rest) =>
          simp only [LocationManager.geocoded_cons, Except.ok.injEq, Prod.mk.injEq] at answered
          simp only [← answered.2, Option.map_some, Option.toList_some, List.mem_singleton]
            at requestMem
          subst request
          rcases Option.some.inj isSaid with rfl
          have offered : before.locationManager.addressString ++ LocationManager.addressText pm =
              LocationManager.addresses (events.filterMap firstPlacemark ++ [pm]) := by
            rw [addressString_of_run run, LocationManager.addresses_append]
            simp [LocationManager.addresses]
          rw [offered]
          exact .address List.prefix_rfl rfl
  | didUpdateLocations updated => simp at requestMem
  | visionWillAppear controller => simp at requestMem
  | setDestinationCoordinate newValue => simp at requestMem
  | takeMeThere => simp at requestMem
  | initRoute => simp at requestMem
  | directionsFailed index => simp at requestMem
  | getUserLocatoin => simp at requestMem

end Callbacks

theorem spoken_of_step {realm : RealmManager} {before after : App} {events : List Event}
    {event : Event} {outputs : List Output} (run : machine.Run (start realm) events before)
    (shown : Shown realm events before.home.localLocationList)
    (spoken : ∀ message ∈ before.speechManager.synthesizer,
      Spoken events before.realm.locations message)
    (step : machine.Step before event after outputs) :
    ∀ message ∈ after.speechManager.synthesizer,
      Spoken (events ++ [event]) after.realm.locations message := by
  intro message queued
  rcases delivered_of_step (navigated_of_reachable run.reachable) step with
    ⟨middle, calls, delivered, carried⟩
  have grown : middle.realm.locations <+: after.realm.locations := by
    have relisted := relisted_carryOutAll middle calls
    rw [carried] at relisted
    exact relisted.1
  have called := said_carryOutAll middle calls
  rw [carried] at called
  have old (queued : message ∈ before.speechManager.synthesizer)
      (grown : before.realm.locations <+: after.realm.locations) :
      Spoken (events ++ [event]) after.realm.locations message :=
    (spoken message queued).later [event] grown
  have new (accounted : Spoken (events ++ [event]) middle.realm.locations message) :
      Spoken (events ++ [event]) after.realm.locations message := by
    rw [← List.append_nil (events ++ [event])]
    exact accounted.later [] grown
  rcases called message queued with queuedBefore | ⟨call, callMem, isSaid⟩
  · cases delivered with
    | speech isEnabled received =>
        rcases spoken_of_speech isEnabled queuedBefore with queuedBefore | isPrompt
        · exact old queuedBefore grown
        · exact .prompt isPrompt
    | launch notLaunched => exact old queuedBefore grown
    | home isEnabled handled => exact old queuedBefore grown
    | vision present isEnabled handled received => exact old queuedBefore grown
    | back covered => exact old queuedBefore grown
    | location isEnabled handled => exact old queuedBefore grown
    | whereAmIBlock pending => exact old queuedBefore grown
  · cases delivered with
    | home isEnabled handled =>
        exact spoken_of_home run step isEnabled shown handled callMem isSaid
    | vision present isEnabled handled received =>
        apply new
        have accounted := spoken_of_vision run present handled received callMem isSaid
        exact (accounted before.realm.locations).later _ List.prefix_rfl
    | location isEnabled handled =>
        exact new (spoken_of_location run handled callMem isSaid _)
    | speech isEnabled received =>
        rcases delegate_of_speechCall callMem with ⟨receiver, asked, _, rfl⟩
        simp [said] at isSaid
    | launch notLaunched => simp at callMem
    | back covered =>
        rcases List.mem_singleton.mp callMem with rfl
        simp [said] at isSaid
    | whereAmIBlock pending =>
        rcases List.mem_singleton.mp callMem with rfl
        simp [said] at isSaid

/-- In every run, whatever is handed to the synthesizer is one of the fixed sentences, the name of
a location that is saved or was found online, an address made of the placemarks answered so far,
an instruction of a route that was given, or a label that a screen was sure of. -/
theorem spoken_of_run {realm : RealmManager} {events : List Event} {app : App}
    (run : machine.Run (start realm) events app) :
    ∀ message ∈ app.speechManager.synthesizer, Spoken events app.realm.locations message := by
  have accounted : Shown realm events app.home.localLocationList ∧
      ∀ message ∈ app.speechManager.synthesizer, Spoken events app.realm.locations message := by
    induction run with
    | refl => exact ⟨.unlaunched (by simp), by simp [start]⟩
    | snoc earlier step ih =>
        rcases ih with ⟨shown, spoken⟩
        exact ⟨shown_of_step earlier shown step, spoken_of_step earlier shown spoken step⟩
  exact accounted.2

def benchSeen : List Event :=
  [.launch, .home (.swipe .right), .vision 0 (.sessionDidUpdate 1 true 1),
    .vision 0 (.taskPerformed (some [⟨"park bench", 1⟩]) none), .vision 0 .displayBlock]

theorem benchSeen_spoken :
    ∃ app, machine.Run (start {}) benchSeen app ∧
      app.speechManager.synthesizer = ["Detected park bench"] ∧
      Spoken benchSeen app.realm.locations "Detected park bench" := by
  have run : machine.Run (start {}) benchSeen ((machine.exec (start {}) benchSeen).getD {}) :=
    .of_exec (by decide +kernel)
  have queued : ((machine.exec (start {}) benchSeen).getD {}).speechManager.synthesizer =
      ["Detected park bench"] := by decide +kernel
  exact ⟨_, run, queued, spoken_of_run run _ (by simp [queued])⟩

end VisionApp.App
