import VisionApp.App.Delegation
import VisionApp.Location.RouteScan
import VisionApp.SpeechKit.Speaking

/-!
# Announcements and the gate

Navigation instructions and the prompts of the save dialogue go through the same
gate as everything else the app says. What meets the open gate is handed to the
synthesizer at once and closes the gate. What meets the closed gate is gone:
there is no queue, and the timer that reopens the gate says nothing. The dialogue
is in its own way. The confirmation of a save closes the gate on the prompt for
the name 6 s later, and the prompt for the name on the prompt for the placemark,
and the first of two instructions on the second.
-/

namespace VisionApp

namespace LocationManager

/-- How showing a response ends: by running past the steps of the first changed route, or with an
instruction for every changed route. -/
inductive Shows (manager : LocationManager) (answer : DirectionsResponse) :
    Except Trap (LocationManager × List Output) → Prop where
  | runsPast {route : MKRoute} {rest : List MKRoute}
      (changed : changedRoutes manager.moveCount answer.routes = route :: rest)
      (missing : firstInstruction route.steps = none) :
      Shows manager answer (.error .indexOutOfRange)
  | posts {after : LocationManager} {messages : List String}
      (instructed : ∀ route rest, changedRoutes manager.moveCount answer.routes = route :: rest →
        (firstInstruction route.steps).isSome = true)
      (each : messages.length = (changedRoutes manager.moveCount answer.routes).length) :
      Shows manager answer (.ok (after, messages.map Output.post))

/-- Which requests are still to be answered plays no part in it. -/
theorem shows_showRoute {manager shower : LocationManager} (answer : DirectionsResponse)
    (sameCount : shower.moveCount = manager.moveCount) :
    Shows manager answer (do return posts (← shower.showRoute answer)) := by
  simp only [showRoute]
  cases changed : changedRoutes manager.moveCount answer.routes with
  | nil =>
      rw [← sameCount] at changed
      rw [(showRoutes_unchanged changed 0 "").1]
      have nothing : changedRoutes manager.moveCount answer.routes = [] := sameCount ▸ changed
      have posts : Shows manager answer (.ok (shower, ([] : List String).map Output.post)) :=
        .posts (by simp [nothing]) (by simp [nothing])
      exact posts
  | cons route rest =>
      rw [← sameCount] at changed
      have scanned := showRoutes_changed changed
      cases found : firstInstruction route.steps with
      | none =>
          simp only [found] at scanned
          rw [scanned]
          exact .runsPast (sameCount ▸ changed) found
      | some instruction =>
          simp only [found] at scanned
          rcases scanned with ⟨after, posted, _⟩
          rw [posted]
          refine .posts ?_ (by rw [← sameCount, changed, List.length_replicate])
          intro first others same
          rw [← sameCount, changed] at same
          rw [← (List.cons.inj same).1, found]
          rfl

theorem shows_of_response {manager : LocationManager} {event : Event}
    {answer : DirectionsResponse} (responds : response event = some answer) :
    Shows manager answer (manager.handle event) := by
  cases event with
  | showRoute shown =>
      rcases Option.some.inj responds with rfl
      exact shows_showRoute shown rfl
  | directionsCompleted index shown =>
      have isShown : shown = some answer := responds
      subst isShown
      have shows : Shows manager answer (do return posts (←
          ({ manager with directions := manager.directions.eraseIdx index }).showRoute answer)) :=
        shows_showRoute answer rfl
      exact shows
  | _ => simp [response] at responds

end LocationManager

namespace App

open EventMachine EventMachine.Machine

def postedText : Output → Option String
  | .post nexStep => some nexStep
  | _ => none

/-- The instructions that a response posts while a vision screen observes them, or the prompt of the
save dialogue that falls due. -/
def announcements (before : App) (event : Event) (outputs : List Output) : List String :=
  match event with
  | .location event =>
      if (LocationManager.response event).isNone ∨ before.liveObservers = [] then []
      else outputs.filterMap postedText
  | .speech .namePromptBlock => [SpeechManager.namePrompt]
  | .speech .voiceInputAction =>
      if before.speechManager.currentSpeechCommad = .voiceCommandLocationName then
        [SpeechManager.placemarkPrompt]
      else []
  | _ => []

/-- All announcements of a step are handed to the synthesizer at once, or by the time the gate
reopens. -/
def DeliveryLaw (before : App) (event : Event) : Prop :=
  ∀ after outputs, before.handle event = .ok (after, outputs) →
    before.announcements event outputs ≠ [] →
      after.speechManager.synthesizer =
          before.speechManager.synthesizer ++ before.announcements event outputs ∨
        ∃ reopened last, machine.Step after (.speech .gateTimer) reopened last ∧
          reopened.speechManager.synthesizer =
            before.speechManager.synthesizer ++ before.announcements event outputs

/-- A prompt falls due at the open gate, and so does an observed response that has an instruction to
give, for one route only. -/
def DeliveryCondition (before : App) : Event → Prop
  | .location event =>
      before.liveObservers ≠ [] → ∀ response, LocationManager.response event = some response →
        ∀ route rest,
          LocationManager.changedRoutes before.locationManager.moveCount response.routes =
            route :: rest →
          (LocationManager.firstInstruction route.steps).isSome = true →
            rest = [] ∧ before.speechManager.voiceInteractorSemaphor = true
  | .speech .namePromptBlock => before.speechManager.voiceInteractorSemaphor = true
  | .speech .voiceInputAction =>
      before.speechManager.currentSpeechCommad = .voiceCommandLocationName →
        before.speechManager.voiceInteractorSemaphor = true
  | _ => True

theorem voiceOutput_voiceOutput (manager : SpeechManager) (first second : String)
    (firstType secondType : VoiceCommand) :
    (manager.voiceOutput first firstType).voiceOutput second secondType =
      manager.voiceOutput first firstType :=
  SpeechManager.voiceOutput_of_closed (by rw [SpeechManager.voiceOutput_eq]) second secondType

theorem post_eq (app : App) (nexStep : String) :
    app.post nexStep =
      { app with
        speechManager :=
          if app.liveObservers = [] then app.speechManager
          else app.speechManager.voiceOutput nexStep .voiceCommandInfo } := by
  have repeated (observers : List ℕ) (manager : SpeechManager) :
      observers.foldl (fun app _ => voiceOutput app nexStep .voiceCommandInfo)
          { app with
            speechManager := manager.voiceOutput nexStep .voiceCommandInfo } =
        { app with
          speechManager := manager.voiceOutput nexStep .voiceCommandInfo } := by
    induction observers with
    | nil => rfl
    | cons _ observers ih =>
        simp only [List.foldl_cons, voiceOutput, voiceOutput_voiceOutput]
        exact ih
  simp only [post]
  cases observed : app.liveObservers with
  | nil => rfl
  | cons _ observers => exact repeated observers app.speechManager

theorem performAll_post (app : App) (messages : List String) :
    performAll performLocation app (messages.map LocationManager.Output.post) =
      .ok (messages.foldl post app, messages.map Output.post) := by
  induction messages generalizing app with
  | nil => rfl
  | cons message messages ih =>
      simp only [List.map_cons, performAll, performLocation, ih]
      rfl

theorem liveObservers_post (app : App) (nexStep : String) :
    (app.post nexStep).liveObservers = app.liveObservers := by
  rw [post_eq]
  rfl

theorem synthesizer_posts (app : App) (messages : List String) :
    (messages.foldl post app).speechManager.synthesizer =
      app.speechManager.synthesizer ++
        if app.speechManager.voiceInteractorSemaphor then
          if app.liveObservers = [] then [] else messages.take 1
        else [] := by
  induction messages generalizing app with
  | nil => simp
  | cons message messages ih =>
      rw [List.foldl_cons, ih, liveObservers_post, post_eq]
      by_cases unobserved : app.liveObservers = []
      · simp [unobserved]
      · cases gate : app.speechManager.voiceInteractorSemaphor with
        | false => simp [unobserved, gate, SpeechManager.voiceOutput_eq]
        | true => simp [unobserved, gate, SpeechManager.voiceOutput_eq]

/-- An observed response hands the first of its instructions to the synthesizer, if the gate is
open. -/
theorem synthesizer_of_posts {before : App} {event : LocationManager.Event}
    {manager : LocationManager} {messages : List String}
    (located : before.locationManager.handle event =
      .ok (manager, messages.map LocationManager.Output.post)) :
    ∃ after, before.handle (.location event) = .ok (after, messages.map Output.post) ∧
      after.speechManager.synthesizer =
        before.speechManager.synthesizer ++
          if before.speechManager.voiceInteractorSemaphor then
            if before.liveObservers = [] then [] else messages.take 1
          else [] := by
  refine ⟨messages.foldl post { before with locationManager := manager }, ?_,
    synthesizer_posts { before with locationManager := manager } messages⟩
  simp only [handle, runLocation, located]
  exact performAll_post _ messages

theorem filterMap_postedText (messages : List String) :
    (messages.map Output.post).filterMap postedText = messages := by
  simp [postedText, Function.comp_def]

theorem speechManager_callDelegate {app after : App} {call : DelegateCall} {outputs : List Output}
    (navigated : app.Navigated) (called : app.callDelegate call = .ok (after, outputs)) :
    after.speechManager = app.speechManager := by
  simp only [callDelegate] at called
  split at called
  · simp at called
  · rename_i receiver isDelegate
    rcases (navigated.delegate receiver).mp isDelegate with ⟨screen, _, rfl⟩
    cases call with
    | navigateToVision isLocalLocation =>
        simp only [dispatch, bind_eq_ok_iff, pure_eq_ok_iff, Except.ok.injEq] at called
        rcases called with ⟨_, rfl, reached⟩
        rw [← (Prod.mk.inj reached).1]
    | filterLocationList filterInput =>
        simp only [dispatch, bind_eq_ok_iff, pure_eq_ok_iff, Except.ok.injEq] at called
        rcases called with ⟨_, rfl, reached⟩
        rw [← (Prod.mk.inj reached).1]
    | whereAmI =>
        simp only [dispatch, bind_eq_ok_iff, pure_eq_ok_iff, Except.ok.injEq] at called
        rcases called with ⟨_, rfl, reached⟩
        rw [← (Prod.mk.inj reached).1]
        rfl

theorem speechManager_performSpeech {app after : App} {request : SpeechManager.Output}
    {outputs : List Output} (navigated : app.Navigated)
    (performed : performSpeech app request = .ok (after, outputs)) :
    after.speechManager = app.speechManager := by
  cases request with
  | visionDelegate call => exact speechManager_callDelegate navigated performed
  | playSystemSound =>
      simp only [performSpeech, Except.ok.injEq, Prod.mk.injEq] at performed
      rw [performed.1]
  | inputs locationName locationPlacemark =>
      simp only [performSpeech, Except.ok.injEq, Prod.mk.injEq] at performed
      rw [performed.1]

/-- A callback of the speech manager takes the manager one step on its own machine. -/
theorem speechManager_runSpeech {before after : App} {event : SpeechManager.Event}
    {outputs : List Output} (navigated : before.Navigated)
    (ran : before.runSpeech event = .ok (after, outputs)) :
    after.speechManager = (before.speechManager.handle event).1 := by
  simp only [runSpeech] at ran
  rcases before.speechManager.handle_requests event with none | ⟨request, single⟩
  · rw [none] at ran
    simp only [performAll, Except.ok.injEq, Prod.mk.injEq] at ran
    rw [← ran.1]
  · rw [single] at ran
    simp only [performAll, bind_eq_ok_iff, pure_eq_ok_iff, Except.ok.injEq, Prod.mk.injEq,
      Prod.exists] at ran
    rcases ran with ⟨middle, first, performed, _, _, ⟨rfl, _⟩, rfl, _⟩
    have stillNavigated :
        ({ before with speechManager := (before.speechManager.handle event).1 } : App).Navigated :=
      ⟨navigated.stack, navigated.delegate⟩
    exact speechManager_performSpeech stillNavigated performed

/-- What the manager hands to the synthesizer for a prompt that falls due. -/
theorem synthesizer_of_prompt {before : App} (navigated : before.Navigated)
    {event : SpeechManager.Event} {prompt : String} {commandType : VoiceCommand}
    (stays : SpeechManager.isEnd event = false)
    (offered : before.speechManager.offered event = some (prompt, commandType))
    {after : App} {outputs : List Output}
    (handled : before.handle (.speech event) = .ok (after, outputs)) :
    after.speechManager.synthesizer =
      before.speechManager.synthesizer ++
        if before.speechManager.voiceInteractorSemaphor then [prompt] else [] := by
  rw [speechManager_runSpeech navigated handled, SpeechManager.synthesizer_handle, stays]
  simp only [Bool.false_eq_true, if_false, SpeechManager.accepted, offered]
  split <;> rfl

/-- The timer that reopens the gate says nothing. -/
theorem synthesizer_gateTimer {before after : App} {outputs : List Output}
    (step : machine.Step before (.speech .gateTimer) after outputs) :
    after.speechManager.synthesizer = before.speechManager.synthesizer := by
  have handled := step.2
  simp only [machine, handle, runSpeech, SpeechManager.handle, performAll, Except.ok.injEq,
    Prod.mk.injEq] at handled
  rw [← handled.1]

/-- Of what is announced, the open gate lets the first message through, and nothing more comes. -/
theorem delivered_iff {before after : App} {announced : List String} (some : announced ≠ [])
    (gained : after.speechManager.synthesizer =
      before.speechManager.synthesizer ++
        if before.speechManager.voiceInteractorSemaphor then announced.take 1 else []) :
    (after.speechManager.synthesizer = before.speechManager.synthesizer ++ announced ∨
      ∃ reopened last, machine.Step after (.speech .gateTimer) reopened last ∧
        reopened.speechManager.synthesizer = before.speechManager.synthesizer ++ announced) ↔
      announced.length = 1 ∧ before.speechManager.voiceInteractorSemaphor = true := by
  have positive := List.length_pos_of_ne_nil some
  constructor
  · intro handed
    have all : after.speechManager.synthesizer =
        before.speechManager.synthesizer ++ announced := by
      rcases handed with atOnce | ⟨reopened, last, step, later⟩
      · exact atOnce
      · rw [← synthesizer_gateTimer step, later]
    rw [gained, List.append_cancel_left_eq] at all
    cases gate : before.speechManager.voiceInteractorSemaphor with
    | false =>
        rw [gate] at all
        exact absurd all.symm some
    | true =>
        rw [gate, if_pos rfl] at all
        have short := congrArg List.length all
        rw [List.length_take] at short
        exact ⟨by omega, rfl⟩
  · rintro ⟨single, gate⟩
    left
    rw [gained, gate, if_pos rfl, List.take_of_length_le (by omega)]

theorem deliveryLaw_of_handled {before after : App} {event : Event} {outputs : List Output}
    (handled : before.handle event = .ok (after, outputs))
    (gained : after.speechManager.synthesizer =
      before.speechManager.synthesizer ++
        if before.speechManager.voiceInteractorSemaphor then
          (before.announcements event outputs).take 1
        else []) :
    DeliveryLaw before event ↔
      (before.announcements event outputs ≠ [] →
        (before.announcements event outputs).length = 1 ∧
          before.speechManager.voiceInteractorSemaphor = true) := by
  constructor
  · intro law some
    exact (delivered_iff some gained).mp (law after outputs handled some)
  · intro met reached reachedOutputs reachedHandled
    rw [handled, Except.ok.injEq, Prod.mk.injEq] at reachedHandled
    rcases reachedHandled with ⟨rfl, rfl⟩
    intro some
    exact (delivered_iff some gained).mpr (met some)

/-- Observed instructions are handed over exactly if there is one, at the open gate. -/
theorem deliveryLaw_of_posts {before : App} {event : LocationManager.Event}
    {response : DirectionsResponse} {manager : LocationManager} {messages : List String}
    (observed : before.liveObservers ≠ [])
    (responds : LocationManager.response event = some response)
    (located : before.locationManager.handle event =
      .ok (manager, messages.map LocationManager.Output.post)) :
    DeliveryLaw before (.location event) ↔
      (messages ≠ [] →
        messages.length = 1 ∧ before.speechManager.voiceInteractorSemaphor = true) := by
  rcases synthesizer_of_posts located with ⟨after, handled, gained⟩
  have announced : before.announcements (.location event) (messages.map Output.post) =
      messages := by
    simp only [announcements, responds, Option.isNone_some, Bool.false_eq_true, observed,
      or_self, if_false, filterMap_postedText]
  rw [if_neg observed, ← announced] at gained
  rw [deliveryLaw_of_handled handled gained, announced]

theorem deliveryLaw_response {before : App} {event : LocationManager.Event}
    {response : DirectionsResponse} (observed : before.liveObservers ≠ [])
    (responds : LocationManager.response event = some response) :
    DeliveryLaw before (.location event) ↔
      ∀ route rest,
        LocationManager.changedRoutes before.locationManager.moveCount response.routes =
          route :: rest →
        (LocationManager.firstInstruction route.steps).isSome = true →
          rest = [] ∧ before.speechManager.voiceInteractorSemaphor = true := by
  have shows : LocationManager.Shows before.locationManager response
      (before.locationManager.handle event) := LocationManager.shows_of_response responds
  generalize located : before.locationManager.handle event = shown at shows
  cases shows with
  | @runsPast first others changed missing =>
      -- The scan ends the app before anything is posted.
      refine iff_of_true ?_ ?_
      · intro after outputs handled
        simp only [handle, runLocation, located] at handled
        have never : (Except.error .indexOutOfRange : Except Trap (App × List Output)) =
            .ok (after, outputs) := handled
        simp at never
      · intro route rest same hasInstruction
        rw [changed] at same
        rw [← (List.cons.inj same).1, missing] at hasInstruction
        simp at hasInstruction
  | @posts manager messages instructed each =>
      rw [deliveryLaw_of_posts observed responds located, ← List.length_pos_iff, each]
      constructor
      · intro met route rest same _
        rcases met (by simp [same]) with ⟨single, gate⟩
        rw [same, List.length_cons] at single
        exact ⟨List.eq_nil_of_length_eq_zero (by omega), gate⟩
      · intro met positive
        rcases List.exists_cons_of_length_pos positive with ⟨route, rest, same⟩
        rcases met route rest same (instructed route rest same) with ⟨rfl, gate⟩
        exact ⟨by rw [same]; rfl, gate⟩

theorem deliveryLaw_location (before : App) (event : LocationManager.Event) :
    DeliveryLaw before (.location event) ↔ DeliveryCondition before (.location event) := by
  by_cases unobserved : before.liveObservers = []
  · refine iff_of_true ?_ (fun observed => absurd unobserved observed)
    intro after outputs _ announced
    simp [announcements, unobserved] at announced
  · cases responds : LocationManager.response event with
    | none =>
        refine iff_of_true ?_ ?_
        · intro after outputs _ announced
          simp [announcements, responds] at announced
        · intro _ response isResponse
          rw [responds] at isResponse
          simp at isResponse
    | some response =>
        rw [deliveryLaw_response unobserved responds]
        simp only [DeliveryCondition, responds, Option.some.injEq, forall_eq', ne_eq, unobserved,
          not_false_eq_true, forall_const]

/-- A prompt is handed over exactly at the open gate. -/
theorem deliveryLaw_prompt {before after : App} (navigated : before.Navigated)
    {event : SpeechManager.Event} {prompt : String} {commandType : VoiceCommand}
    {outputs : List Output} (stays : SpeechManager.isEnd event = false)
    (offered : before.speechManager.offered event = some (prompt, commandType))
    (announced : before.announcements (.speech event) outputs = [prompt])
    (handled : before.handle (.speech event) = .ok (after, outputs)) :
    DeliveryLaw before (.speech event) ↔
      before.speechManager.voiceInteractorSemaphor = true := by
  have gained := synthesizer_of_prompt navigated stays offered handled
  rw [deliveryLaw_of_handled handled (by rw [announced]; exact gained), announced]
  simp

theorem deliveryLaw_iff {before : App} (navigated : before.Navigated) (event : Event) :
    DeliveryLaw before event ↔ DeliveryCondition before event := by
  have silent (nothing : ∀ outputs, before.announcements event outputs = []) :
      DeliveryLaw before event := by
    intro after outputs _ announced
    exact absurd (nothing outputs) announced
  cases event with
  | location event => exact deliveryLaw_location before event
  | speech event =>
      cases event with
      | namePromptBlock =>
          exact deliveryLaw_prompt navigated rfl rfl rfl rfl
      | voiceInputAction =>
          by_cases asked :
            before.speechManager.currentSpeechCommad = .voiceCommandLocationName
          · have offered : before.speechManager.offered .voiceInputAction =
                some (SpeechManager.placemarkPrompt, .voiceCommandLocatoiPlacemark) :=
              if_pos asked
            have unasked : (before.speechManager.handle .voiceInputAction).2 = [] := by
              simp [SpeechManager.handle, SpeechManager.voiceInputAction, asked]
            have handled : before.handle (.speech .voiceInputAction) =
                .ok ({ before with speechManager :=
                  (before.speechManager.handle .voiceInputAction).1 }, []) := by
              simp only [handle, runSpeech, unasked]
              rfl
            refine (deliveryLaw_prompt navigated rfl offered (if_pos asked) handled).trans ?_
            exact ⟨fun gate _ => gate, fun gate => gate asked⟩
          · exact iff_of_true (silent (fun _ => if_neg asked)) (fun isAsked => absurd isAsked asked)
      | _ => exact iff_of_true (silent (fun _ => rfl)) trivial
  | _ => exact iff_of_true (silent (fun _ => rfl)) trivial

/-- No announcement of a run is lost exactly when every prompt falls due at the open gate, and every
observed response that gives an instruction meets the open gate and gives just one. -/
theorem announcements_iff_gate (realm : RealmManager) (events : List Event) :
    machine.Always DeliveryLaw (start realm) events ↔
      machine.Always DeliveryCondition (start realm) events := by
  apply Always.congr
  intro before event reached _
  exact deliveryLaw_iff (navigated_of_reachable reached) event

/-- The first save is confirmed at once, and the block for its prompt runs 6 s later. The second
save is made late in these 20 s, so its prompt meets the open gate and is answered. -/
def saveDialogue : List Event :=
  [.launch, .home (.swipe .left), .speech (.didFinish true), .speech .namePromptBlock,
    .home (.swipe .left), .speech .gateTimer, .speech .namePromptBlock, .speech (.didFinish true),
    .speech (.recognition 0 (some "Lobby") false), .speech .voiceInputAction]

/-- The confirmation of the first save costs it the prompt for its name. The prompt for the name of
the second one costs it the prompt for its placemark, which is not said when the gate reopens
either. -/
theorem saveDialogue_discards :
    (∃ finish, machine.Run (start {}) (saveDialogue ++ [.speech .gateTimer]) finish ∧
      finish.speechManager.synthesizer = [] ∧ finish.speechManager.locationName = "Lobby" ∧
      finish.speechManager.namePrompts = 0 ∧ finish.speechManager.gateTimers = 0) ∧
      ¬machine.Always DeliveryLaw (start {}) saveDialogue ∧
      ∃ before, machine.Run (start {}) (saveDialogue.take 9) before ∧
        ¬DeliveryLaw before (.speech .voiceInputAction) := by
  have unheard {before after : App} {outputs : List Output} {event : Event}
      (handled : before.handle event = .ok (after, outputs))
      (announced : before.announcements event outputs ≠ [])
      (nothing : after.speechManager.synthesizer = before.speechManager.synthesizer) :
      ¬DeliveryLaw before event := by
    intro law
    rcases law after outputs handled announced with atOnce | ⟨reopened, last, step, later⟩
    · exact announced (List.self_eq_append_right.mp (nothing.symm.trans atOnce))
    · rw [synthesizer_gateTimer step, nothing] at later
      exact announced (List.self_eq_append_right.mp later)
  refine ⟨⟨_, .of_exec rfl, rfl, rfl, rfl, rfl⟩, ?_, _, .of_exec rfl, ?_⟩
  · apply Always.not_of_exec (saveDialogue.take 3) (saveDialogue.drop 4) rfl rfl
    exact unheard rfl (by simp [announcements]) rfl
  · exact unheard rfl (by decide) rfl

end App

end VisionApp
