import VisionApp.App.SavedPlaces
import VisionApp.SpeechKit.Accounts

/-!
# The names that are saved

A saved location carries the name and placemark that the speech manager has at
that moment. The manager acts on one reply in its life. The reply can be a name,
but the prompt for the placemark follows an action, so no reply is ever read as
one.
-/

namespace VisionApp

namespace SpeechManager

/-- What a step that acts on no reply leaves of the dialogue. -/
structure SameDialogue (before after : SpeechManager) : Prop where
  name : after.locationName = before.locationName
  placemark : after.locationPlacemark = before.locationPlacemark
  actions : after.actions = before.actions
  unplaced : before.currentSpeechCommad ≠ .voiceCommandLocatoiPlacemark →
    after.currentSpeechCommad ≠ .voiceCommandLocatoiPlacemark

namespace SameDialogue

variable {before middle after : SpeechManager}

theorem refl (manager : SpeechManager) : SameDialogue manager manager :=
  ⟨rfl, rfl, rfl, id⟩

theorem trans (first : SameDialogue before middle) (second : SameDialogue middle after) :
    SameDialogue before after where
  name := second.name.trans first.name
  placemark := second.placemark.trans first.placemark
  actions := second.actions.trans first.actions
  unplaced unplaced := second.unplaced (first.unplaced unplaced)

theorem voiceOutput (manager : SpeechManager) (message : String) (commandType : VoiceCommand)
    (notPlacemark : commandType ≠ .voiceCommandLocatoiPlacemark) :
    SameDialogue manager (manager.voiceOutput message commandType) := by
  rw [voiceOutput_eq]
  refine ⟨rfl, rfl, rfl, ?_⟩
  intro unplaced
  dsimp only
  split
  · exact notPlacemark
  · exact unplaced

end SameDialogue

theorem sameDialogue_resultHandler (manager : SpeechManager) (result : Option String)
    (error : Bool) :
    (manager.resultHandler result error).locationName = manager.locationName ∧
      (manager.resultHandler result error).locationPlacemark = manager.locationPlacemark ∧
      (manager.resultHandler result error).currentSpeechCommad = manager.currentSpeechCommad := by
  cases result with
  | none => cases error <;> simp [resultHandler]
  | some text => cases error <;> cases semaphore : manager.listeningSempahor <;>
      simp [resultHandler, semaphore]

/-- Between the calls of other components, only `voiceInputAction` changes the dialogue. -/
theorem sameDialogue_handle {before : SpeechManager} {event : Event}
    (isEnabled : before.enabled event = true) (notAction : event ≠ .voiceInputAction)
    (notCall : ∀ message commandType, event ≠ .voiceOutput message commandType) :
    SameDialogue before (before.handle event).1 := by
  have actions := actions_handle isEnabled
  have unspent : isAction event = false := by
    cases event <;> first | rfl | exact absurd rfl notAction
  rw [unspent] at actions
  cases event with
  | voiceInputAction => exact absurd rfl notAction
  | voiceOutput message commandType => exact absurd rfl (notCall message commandType)
  | namePromptBlock =>
      have prompted := SameDialogue.voiceOutput { before with
        namePrompts := before.namePrompts - 1 } namePrompt .voiceCommandLocationName (by simp)
      exact ⟨prompted.name, prompted.placemark, actions, prompted.unplaced⟩
  | recognition task result error =>
      rcases sameDialogue_resultHandler before result error with ⟨name, placemark, command⟩
      refine ⟨name, placemark, actions, ?_⟩
      intro unplaced
      exact command ▸ unplaced
  | didFinish engineStarts =>
      simp only [handle, didFinish] at actions ⊢
      split <;> exact ⟨rfl, rfl, rfl, id⟩
  | voiceInput engineStarts => exact ⟨rfl, rfl, actions, id⟩
  | inputsToSaveLocation => exact ⟨rfl, rfl, actions, id⟩
  | gateTimer => exact ⟨rfl, rfl, actions, id⟩

theorem placemark_voiceInputAction (manager : SpeechManager)
    (unplaced : manager.currentSpeechCommad ≠ .voiceCommandLocatoiPlacemark) :
    manager.voiceInputAction.1.locationPlacemark = manager.locationPlacemark := by
  simp only [voiceInputAction]
  split
  · rfl
  · simp [voiceOutput_eq]
  · rename_i placed
    exact absurd placed unplaced
  · rfl

theorem name_voiceInputAction (manager : SpeechManager) :
    manager.voiceInputAction.1.locationName =
      if manager.currentSpeechCommad = .voiceCommandLocationName then
        trimmingCharacters manager.voiceInputMessage
      else manager.locationName := by
  simp only [voiceInputAction]
  split
  · rename_i command
    simp [command]
  · rename_i command
    simp [voiceOutput_eq, command]
  · rename_i command
    simp [command]
  · rename_i command
    simp [command]

end SpeechManager

namespace App

open EventMachine

def asksPlacemark : Call → Bool
  | .voiceOutput _ .voiceCommandLocatoiPlacemark => true
  | _ => false

theorem sameDialogue_carried {before after : App} {call : Call}
    (notAsked : asksPlacemark call = false) (carried : Carried before call after) :
    before.speechManager.SameDialogue after.speechManager := by
  cases carried with
  | spoken message commandType =>
      apply SpeechManager.SameDialogue.voiceOutput
      rintro rfl
      simp [asksPlacemark] at notAsked
  | notified nexStep => exact .voiceOutput _ nexStep .voiceCommandInfo (by simp)
  | saved =>
      have prompted :
          before.speechManager.SameDialogue before.speechManager.inputsToSaveLocation.1 :=
        ⟨rfl, rfl, rfl, id⟩
      exact prompted.trans (.voiceOutput _ "Location Saved successfully " .voiceCommandInfo
        (by simp))
  | _ => exact .refl _

theorem notAsked_of_delivered {before middle : App} {event : Event} {calls : List Call}
    (delivered : Delivered before event middle calls) :
    ∀ call ∈ calls, asksPlacemark call = false := by
  intro call callMem
  cases delivered with
  | launch notLaunched => simp at callMem
  | home isEnabled handled =>
      cases HomeViewController.asks_of_handle handled with
      | nothing notGesture => simp at callMem
      | selection direction message row vertical =>
          rcases List.mem_pair.mp callMem with rfl | rfl <;> rfl
      | announcement announces message => rw [List.mem_singleton.mp callMem]; rfl
      | segue opens => rw [List.mem_singleton.mp callMem]; rfl
      | save => rw [List.mem_singleton.mp callMem]; rfl
      | whereAmI => rw [List.mem_singleton.mp callMem]; rfl
      | prompt => rw [List.mem_singleton.mp callMem]; rfl
  | vision present isEnabled handled received =>
      cases asks_of_unlessGone (VisionViewController.asks_of_handle handled) received with
      | nothing notSave notLeave => simp at callMem
      | leave => rcases List.mem_pair.mp callMem with rfl | rfl <;> rfl
      | save => rw [List.mem_singleton.mp callMem]; rfl
      | whereAmI => rw [List.mem_singleton.mp callMem]; rfl
      | detection message => rw [List.mem_singleton.mp callMem]; rfl
  | back covered =>
      rw [List.mem_singleton.mp callMem]
      rfl
  | speech isEnabled received =>
      rcases delegate_of_speechCall callMem with ⟨receiver, asked, _, rfl⟩
      rfl
  | location isEnabled handled =>
      rcases List.mem_map.mp callMem with ⟨request, _, rfl⟩
      cases request <;> rfl
  | whereAmIBlock pending =>
      rw [List.mem_singleton.mp callMem]
      rfl

theorem sameDialogue_carryOutAll (app : App) {calls : List Call}
    (notAsked : ∀ call ∈ calls, asksPlacemark call = false) :
    app.speechManager.SameDialogue (app.carryOutAll calls).1.speechManager := by
  apply carryOutAll_related (fun before after =>
    before.speechManager.SameDialogue after.speechManager)
  · exact fun _ => .refl _
  · exact .trans
  · intro before after call callMem carried
    exact sameDialogue_carried (notAsked call callMem) carried

/-- Only the step that acts on a reply changes the dialogue, and only by what it reads. -/
theorem dialogue_of_step {before after : App} {event : Event} {outputs : List Output}
    (navigated : before.Navigated) (step : machine.Step before event after outputs) :
    event ≠ .speech .voiceInputAction ∧
        before.speechManager.SameDialogue after.speechManager ∨
      event = .speech .voiceInputAction ∧
        after.speechManager.actions + 1 = before.speechManager.actions ∧
        (before.speechManager.currentSpeechCommad ≠ .voiceCommandLocatoiPlacemark →
          after.speechManager.locationPlacemark = before.speechManager.locationPlacemark) ∧
        after.speechManager.locationName =
          if before.speechManager.currentSpeechCommad = .voiceCommandLocationName then
            trimmingCharacters before.speechManager.voiceInputMessage
          else before.speechManager.locationName := by
  rcases delivered_of_step navigated step with ⟨middle, calls, delivered, carried⟩
  have called := sameDialogue_carryOutAll middle (notAsked_of_delivered delivered)
  rw [carried] at called
  cases delivered with
  | @speech event isEnabled received =>
      have outstanding : before.speechManager.enabled event = true := by
        cases event <;> simp_all [enabledSpeech]
      by_cases isAction : event = .voiceInputAction
      · subst isAction
        right
        have spent := SpeechManager.actions_handle outstanding
        refine ⟨rfl, ?_, ?_, ?_⟩
        · rw [called.actions]
          exact spent
        · intro unplaced
          rw [called.placemark]
          exact SpeechManager.placemark_voiceInputAction { before.speechManager with
            actionTimers := before.speechManager.actionTimers - 1 } unplaced
        · rw [called.name]
          exact SpeechManager.name_voiceInputAction { before.speechManager with
            actionTimers := before.speechManager.actionTimers - 1 }
      · left
        have notCall (message : String) (commandType : VoiceCommand) :
            event ≠ .voiceOutput message commandType := by
          rintro rfl
          simp [enabledSpeech] at isEnabled
        exact ⟨by simpa using isAction,
          (SpeechManager.sameDialogue_handle outstanding isAction notCall).trans called⟩
  | launch notLaunched => exact Or.inl ⟨by simp, called⟩
  | home isEnabled handled => exact Or.inl ⟨by simp, called⟩
  | vision present isEnabled handled received => exact Or.inl ⟨by simp, called⟩
  | back covered => exact Or.inl ⟨by simp, called⟩
  | location isEnabled handled => exact Or.inl ⟨by simp, called⟩
  | whereAmIBlock pending => exact Or.inl ⟨by simp, called⟩

/-- The run acted on one reply, which it read in `before` as the name of a location. -/
structure ReadsName (realm : RealmManager) (events earlier later : List Event) (before : App) :
    Prop where
  shape : events = earlier ++ .speech .voiceInputAction :: later
  first : .speech .voiceInputAction ∉ earlier
  last : .speech .voiceInputAction ∉ later
  run : machine.Run (start realm) earlier before
  asked : before.speechManager.currentSpeechCommad = .voiceCommandLocationName

def reply (before : App) : String :=
  trimmingCharacters before.speechManager.voiceInputMessage

/-- The names that the locations of a run are saved with: none before the reply that was read as a
name, and that reply after it. -/
inductive SavedNames (realm : RealmManager) (events : List Event) : List String → Prop where
  | unnamed (unread : ∀ earlier later before, ¬ReadsName realm events earlier later before) :
      SavedNames realm events (List.replicate (events.countP savesHere) "")
  | named {earlier later : List Event} {before : App}
      (reads : ReadsName realm events earlier later before) :
      SavedNames realm events
        (List.replicate (earlier.countP savesHere) "" ++
          List.replicate (later.countP savesHere) before.reply)

theorem ReadsName.mem {realm : RealmManager} {events earlier later : List Event} {before : App}
    (reads : ReadsName realm events earlier later before) :
    .speech .voiceInputAction ∈ events := by
  rw [reads.shape]
  simp

/-- How far the app got with its one reply, and the names that were saved until then. -/
inductive Dialogue (realm : RealmManager) (events : List Event) (app : App) :
    List String → Prop where
  | waiting (unspent : app.speechManager.actions = 1)
      (unplaced : app.speechManager.currentSpeechCommad ≠ .voiceCommandLocatoiPlacemark)
      (noName : app.speechManager.locationName = "")
      (unread : .speech .voiceInputAction ∉ events) :
      Dialogue realm events app (List.replicate (events.countP savesHere) "")
  | unnamed (spent : app.speechManager.actions = 0)
      (noName : app.speechManager.locationName = "")
      (unread : ∀ earlier later before, ¬ReadsName realm events earlier later before) :
      Dialogue realm events app (List.replicate (events.countP savesHere) "")
  | named {earlier later : List Event} {before : App}
      (spent : app.speechManager.actions = 0)
      (reads : ReadsName realm events earlier later before)
      (name : app.speechManager.locationName = before.reply) :
      Dialogue realm events app
        (List.replicate (earlier.countP savesHere) "" ++
          List.replicate (later.countP savesHere) before.reply)

section Steps

variable {realm : RealmManager} {events : List Event} {before after : App} {names : List String}
  {event : Event} {outputs : List Output}

theorem Dialogue.savedNames (dialogue : Dialogue realm events before names) :
    SavedNames realm events names := by
  cases dialogue with
  | waiting unspent unplaced noName unread =>
      apply SavedNames.unnamed
      intro earlier later reader reads
      exact unread reads.mem
  | unnamed spent noName unread => exact .unnamed unread
  | named spent reads name => exact .named reads

theorem replicate_countP_snoc (events : List Event) (event : Event) (name : String) :
    List.replicate ((events ++ [event]).countP savesHere) name =
      List.replicate (events.countP savesHere) name ++
        if savesHere event then [name] else [] := by
  rw [List.countP_append, List.countP_singleton, List.replicate_add]
  split <;> rfl

/-- A reply that was not read as a name is not read as one later. -/
theorem unread_snoc (unread : ∀ earlier later before, ¬ReadsName realm events earlier later before)
    (notAction : event ≠ .speech .voiceInputAction) :
    ∀ earlier later before, ¬ReadsName realm (events ++ [event]) earlier later before := by
  intro earlier later reader reads
  rcases snoc_eq_append_cons reads.shape with ⟨_, isAction, _⟩ | ⟨init, rfl, sameEvents⟩
  · exact notAction isAction
  · have unspoken := reads.last
    exact unread earlier init reader ⟨sameEvents, reads.first,
      fun actionMem => unspoken (by simp [actionMem]), reads.run, reads.asked⟩

theorem ReadsName.snoc {earlier later : List Event} {reader : App}
    (reads : ReadsName realm events earlier later reader)
    (notAction : event ≠ .speech .voiceInputAction) :
    ReadsName realm (events ++ [event]) earlier (later ++ [event]) reader where
  shape := by rw [reads.shape]; simp
  first := reads.first
  last := by
    intro actionMem
    rcases List.mem_append.mp actionMem with old | new
    · exact reads.last old
    · exact notAction (List.mem_singleton.mp new).symm
  run := reads.run
  asked := reads.asked

/-- A step that acts on no reply saves with the name that there is. -/
theorem Dialogue.kept (dialogue : Dialogue realm events before names)
    (same : before.speechManager.SameDialogue after.speechManager)
    (notAction : event ≠ .speech .voiceInputAction) :
    Dialogue realm (events ++ [event]) after
      (names ++ if savesHere event then [before.speechManager.locationName] else []) := by
  cases dialogue with
  | waiting unspent unplaced noName unread =>
      rw [noName, ← replicate_countP_snoc]
      refine .waiting (same.actions.trans unspent) (same.unplaced unplaced)
        (same.name.trans noName) ?_
      intro actionMem
      rcases List.mem_append.mp actionMem with old | new
      · exact unread old
      · exact notAction (List.mem_singleton.mp new).symm
  | unnamed spent noName unread =>
      rw [noName, ← replicate_countP_snoc]
      exact .unnamed (same.actions.trans spent) (same.name.trans noName)
        (unread_snoc unread notAction)
  | named spent reads name =>
      rw [name, List.append_assoc, ← replicate_countP_snoc]
      exact .named (same.actions.trans spent) (reads.snoc notAction) (same.name.trans name)

/-- The one reply that is acted on is read as a name, or no reply ever is. -/
theorem Dialogue.acted (dialogue : Dialogue realm events before names)
    (run : machine.Run (start realm) events before)
    (spends : after.speechManager.actions + 1 = before.speechManager.actions)
    (name : after.speechManager.locationName =
      if before.speechManager.currentSpeechCommad = .voiceCommandLocationName then before.reply
      else before.speechManager.locationName) :
    Dialogue realm (events ++ [.speech .voiceInputAction]) after names := by
  cases dialogue with
  | waiting unspent unplaced noName unread =>
      have spent : after.speechManager.actions = 0 := by omega
      by_cases asked : before.speechManager.currentSpeechCommad = .voiceCommandLocationName
      · rw [if_pos asked] at name
        have reads : ReadsName realm (events ++ [.speech .voiceInputAction]) events [] before :=
          ⟨rfl, unread, by simp, run, asked⟩
        simpa using Dialogue.named spent reads name
      · rw [if_neg asked] at name
        have sameCount := replicate_countP_snoc events (.speech .voiceInputAction) ""
        rw [if_neg (by simp [savesHere]), List.append_nil] at sameCount
        rw [← sameCount]
        refine .unnamed spent (name.trans noName) ?_
        intro earlier later reader reads
        rcases snoc_eq_append_cons reads.shape with ⟨rfl, _, _⟩ | ⟨init, _, rfl⟩
        · rw [run.deterministic reads.run] at asked
          exact asked reads.asked
        · exact unread (by simp)
  | unnamed spent noName unread => omega
  | named spent reads name => omega

theorem Dialogue.step (dialogue : Dialogue realm events before names)
    (run : machine.Run (start realm) events before)
    (step : machine.Step before event after outputs) :
    Dialogue realm (events ++ [event]) after
      (names ++ if savesHere event then [before.speechManager.locationName] else []) := by
  rcases dialogue_of_step (navigated_of_reachable run.reachable) step with
    ⟨notAction, same⟩ | ⟨rfl, spends, _, name⟩
  · exact dialogue.kept same notAction
  · simpa [savesHere] using dialogue.acted run spends name

/-- While the reply is still to come, the app has not asked for a placemark. -/
theorem Dialogue.placemark (dialogue : Dialogue realm events before names)
    (navigated : before.Navigated) (step : machine.Step before event after outputs) :
    after.speechManager.locationPlacemark = before.speechManager.locationPlacemark := by
  rcases dialogue_of_step navigated step with ⟨_, same⟩ | ⟨_, spends, unread, _⟩
  · exact same.placemark
  · cases dialogue with
    | waiting unspent unplaced noName unacted => exact unread unplaced
    | unnamed spent noName unread => omega
    | named spent reads name => omega

end Steps

/-- In every run, no saved location has a placemark, and their names are told by the run: empty
before the only reply that the app acts on, if it is read as a name, and that reply after it. -/
theorem savedNames_of_run {realm : RealmManager} {events : List Event} {app : App}
    (run : machine.Run (start realm) events app) :
    ∃ added, app.realm.locations = realm.locations ++ added ∧
      (∀ location ∈ added, location.locationPlacemark = "") ∧
      SavedNames realm events (added.map LocationModel.locationName) := by
  have invariant : ∃ added, app.realm.locations = realm.locations ++ added ∧
      (∀ location ∈ added, location.locationPlacemark = "") ∧
      app.speechManager.locationPlacemark = "" ∧
      Dialogue realm events app (added.map LocationModel.locationName) := by
    induction run with
    | refl =>
        have waiting : Dialogue realm [] (start realm) [] :=
          .waiting rfl (by simp [start]) rfl (by simp)
        exact ⟨[], by simp [start], by simp, rfl, waiting⟩
    | @snoc events before after event outputs earlier step ih =>
        rcases ih with ⟨added, stored, unplaced, placemark, dialogue⟩
        have navigated := navigated_of_reachable earlier.reachable
        refine ⟨added ++ if savesHere event then [before.newLocation] else [], ?_, ?_,
          (dialogue.placemark navigated step).trans placemark, ?_⟩
        · rw [realm_of_step navigated step, stored, List.append_assoc]
        · intro location locationMem
          rcases List.mem_append.mp locationMem with old | new
          · exact unplaced location old
          · split at new
            · rw [List.mem_singleton.mp new]
              exact placemark
            · simp at new
        · have saved := dialogue.step earlier step
          rw [List.map_append]
          convert saved using 2
          cases savesHere event <;> rfl
  rcases invariant with ⟨added, stored, unplaced, _, dialogue⟩
  exact ⟨added, stored, unplaced, dialogue.savedNames⟩

/-- The first save closes the gate on its own prompt. The second is made late in these 20 s, and its
prompt is said and answered. -/
def nameOnce : List Event :=
  [.launch, .home (.swipe .left), .speech (.didFinish true), .speech .namePromptBlock,
    .home (.swipe .left), .speech .gateTimer, .speech .namePromptBlock, .speech (.didFinish true),
    .speech (.recognition 0 (some "Lobby ") false), .speech .voiceInputAction,
    .home (.swipe .left), .home (.swipe .left)]

theorem nameOnce_names :
    ∃ app, machine.Run (start {}) nameOnce app ∧
      app.realm.locations.map LocationModel.locationName = ["", "", "Lobby", "Lobby"] ∧
      ∃ added, app.realm.locations = [] ++ added ∧
        (∀ location ∈ added, location.locationPlacemark = "") ∧
        SavedNames {} nameOnce (added.map LocationModel.locationName) := by
  have run : machine.Run (start {}) nameOnce ((machine.exec (start {}) nameOnce).getD {}) :=
    .of_exec rfl
  exact ⟨_, run, rfl, savedNames_of_run run⟩

end App

end VisionApp
