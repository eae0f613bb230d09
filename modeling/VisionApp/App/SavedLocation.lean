import VisionApp.AppDelegate
import VisionApp.EventMachine.History

/-!
# What a saved location carries

`saveThisLocation` saves a location at once, with the name and placemark that the
speech manager holds at that moment, and only then has the user asked for a name
and a placemark. The answers come too late for their own request; the next one
saves them.

A history variable numbers the requests and follows each request's prompts
through the speech manager: from the 6 s block to the utterance, from its end to
the listening session, and from there to the recognised reply.
-/

namespace VisionApp.App

open EventMachine EventMachine.Machine

structure Prompt where
  request : ℕ
  command : VoiceCommand
deriving DecidableEq, Repr

structure SaveHistory where
  requests : ℕ := 0
  /-- The prompts of the pending 6 s blocks, the oldest first. -/
  namePrompts : List (Option Prompt) := []
  /-- The prompts among the utterances of `synthesizer`. -/
  spoken : List (Option Prompt) := []
  /-- For every session, the prompt whose end opened it. -/
  sessions : List (Option Prompt) := []
  /-- The prompt that `voiceInputMessage` replies to. -/
  reply : Option Prompt := none
  /-- Everything recognised in reply to a prompt, trimmed. -/
  replies : List (Prompt × String) := []
deriving DecidableEq, Repr

namespace SaveHistory

/-- A callback of the speech manager passes the prompts on. -/
def heard (history : SaveHistory) (before : SpeechManager) : SpeechManager.Event → SaveHistory
  | .namePromptBlock =>
      { history with
        namePrompts := history.namePrompts.tail
        spoken := history.spoken ++
          if before.voiceInteractorSemaphor then [history.namePrompts.head?.join] else [] }
  | .didFinish _ =>
      { history with
        spoken := history.spoken.tail
        sessions := history.sessions ++
          if before.currentSpeechCommad ≠ .voiceCommandInfo then [history.spoken.head?.join]
          else [] }
  | .recognition task (some text) _ =>
      let prompt := history.sessions[task]?.join
      { history with
        reply := prompt
        replies := history.replies ++
          (prompt.map (fun prompt => (prompt, trimmingCharacters text))).toList }
  | .voiceInputAction =>
      let placemarkPrompt := history.reply.map (fun prompt =>
        { prompt with command := VoiceCommand.voiceCommandLocatoiPlacemark })
      { history with
        spoken := history.spoken ++
          if before.voiceInteractorSemaphor ∧
            before.currentSpeechCommad = .voiceCommandLocationName then [placemarkPrompt] else [] }
  | _ => history

def saved : Output → Option LocationModel
  | .saveLocation location => some location
  | _ => none

/-- Any other step makes requests, and says things that are no prompts. -/
def asked (history : SaveHistory) (before after : SpeechManager) (outputs : List Output) :
    SaveHistory :=
  let requests := (outputs.filterMap saved).length
  { history with
    requests := history.requests + requests
    namePrompts := history.namePrompts ++
      (List.range' history.requests requests).map (fun request =>
        some ⟨request, .voiceCommandLocationName⟩)
    spoken := history.spoken ++
      List.replicate (after.synthesizer.length - before.synthesizer.length) none }

def observe (history : SaveHistory) (before : App) (event : Event) (after : App)
    (outputs : List Output) : SaveHistory :=
  match event with
  | .speech event => history.heard before.speechManager event
  | _ => history.asked before.speechManager after.speechManager outputs

/-- The location carries the replies to the two prompts of a request. -/
def Answers (history : SaveHistory) (request : ℕ) (location : LocationModel) : Prop :=
  (⟨request, .voiceCommandLocationName⟩, location.locationName) ∈ history.replies ∧
    (⟨request, .voiceCommandLocatoiPlacemark⟩, location.locationPlacemark) ∈ history.replies

end SaveHistory

def saveMachine :=
  machine.observed SaveHistory.observe

/-- A location that the step saves carries the replies to the prompts of its own request. -/
def SaveLaw (before : App × SaveHistory) (event : Event) : Prop :=
  ∀ after outputs location, before.1.handle event = .ok (after, outputs) →
    .saveLocation location ∈ outputs → before.2.Answers before.2.requests location

def SavesNothing (before : App) (event : Event) : Prop :=
  ∀ after outputs location, before.handle event = .ok (after, outputs) →
    .saveLocation location ∉ outputs

/-- The prompts belong to the first `requests` requests. -/
def Issued (requests : ℕ) (prompts : List (Option Prompt)) : Prop :=
  ∀ prompt, some prompt ∈ prompts → prompt.request < requests

namespace Issued

variable {requests : ℕ} {prompts more : List (Option Prompt)}

theorem append (issued : Issued requests prompts) (moreIssued : Issued requests more) :
    Issued requests (prompts ++ more) := by
  intro prompt promptMem
  rcases List.mem_append.mp promptMem with earlier | later
  · exact issued prompt earlier
  · exact moreIssued prompt later

theorem tail (issued : Issued requests prompts) : Issued requests prompts.tail := by
  intro prompt promptMem
  exact issued prompt (List.mem_of_mem_tail promptMem)

theorem mono (issued : Issued requests prompts) (new : ℕ) : Issued (requests + new) prompts := by
  intro prompt promptMem
  have bound := issued prompt promptMem
  omega

theorem single {label : Option Prompt}
    (bound : ∀ prompt, label = some prompt → prompt.request < requests) :
    Issued requests [label] := by
  intro prompt promptMem
  exact bound prompt (List.mem_singleton.mp promptMem).symm

theorem ite {condition : Prop} [Decidable condition] (issued : Issued requests prompts) :
    Issued requests (if condition then prompts else []) := by
  split
  · exact issued
  · intro prompt promptMem
    simp at promptMem

theorem getElem? (issued : Issued requests prompts) {index : ℕ} {prompt : Prompt}
    (found : prompts[index]?.join = some prompt) : prompt.request < requests := by
  apply issued
  exact List.mem_of_getElem? (Option.join_eq_some_iff.mp found)

theorem head? (issued : Issued requests prompts) :
    Issued requests [prompts.head?.join] := by
  apply single
  intro prompt found
  rw [List.head?_eq_getElem?] at found
  exact issued.getElem? found

theorem replicate_none (count : ℕ) : Issued requests (List.replicate count none) := by
  intro prompt promptMem
  have same := List.eq_of_mem_replicate promptMem
  simp at same

theorem range' (first count : ℕ) (command : VoiceCommand) :
    Issued (first + count) ((List.range' first count).map (fun request =>
      some ⟨request, command⟩)) := by
  intro prompt promptMem
  simp only [List.mem_map, List.mem_range'_1] at promptMem
  rcases promptMem with ⟨request, bounds, same⟩
  rcases Option.some.inj same with rfl
  exact bounds.2

end Issued

/-- Every prompt that is on its way, or was answered, belongs to a request made earlier. -/
structure SaveHistory.Earlier (history : SaveHistory) : Prop where
  namePrompts : Issued history.requests history.namePrompts
  spoken : Issued history.requests history.spoken
  sessions : Issued history.requests history.sessions
  reply : Issued history.requests [history.reply]
  replies : ∀ answered ∈ history.replies, answered.1.request < history.requests

namespace SaveHistory.Earlier

variable {history : SaveHistory}

theorem initial : Earlier {} where
  namePrompts := by simp [Issued]
  spoken := by simp [Issued]
  sessions := by simp [Issued]
  reply := by simp [Issued]
  replies := by simp

theorem heard (earlier : history.Earlier) (before : SpeechManager)
    (event : SpeechManager.Event) : (history.heard before event).Earlier := by
  cases event with
  | namePromptBlock =>
      exact { earlier with
        namePrompts := earlier.namePrompts.tail
        spoken := earlier.spoken.append earlier.namePrompts.head?.ite }
  | didFinish engineStarts =>
      exact { earlier with
        spoken := earlier.spoken.tail
        sessions := earlier.sessions.append earlier.spoken.head?.ite }
  | recognition task result error =>
      cases result with
      | none => exact earlier
      | some text =>
          refine { earlier with reply := ?_, replies := ?_ }
          · exact Issued.single (fun _ found => earlier.sessions.getElem? found)
          · intro answered answeredMem
            rcases List.mem_append.mp answeredMem with old | new
            · exact earlier.replies answered old
            · simp only [Option.mem_toList, Option.map_eq_some_iff] at new
              rcases new with ⟨prompt, found, rfl⟩
              exact earlier.sessions.getElem? found
  | voiceInputAction =>
      refine { earlier with spoken := earlier.spoken.append (Issued.ite (Issued.single ?_)) }
      intro prompt follows
      rcases Option.map_eq_some_iff.mp follows with ⟨answered, isReply, rfl⟩
      exact earlier.reply answered (List.mem_singleton.mpr isReply.symm)
  | _ => exact earlier

theorem asked (earlier : history.Earlier) (before after : SpeechManager)
    (outputs : List Output) : (history.asked before after outputs).Earlier where
  namePrompts := (earlier.namePrompts.mono _).append (Issued.range' _ _ _)
  spoken := (earlier.spoken.mono _).append (Issued.replicate_none _)
  sessions := earlier.sessions.mono _
  reply := earlier.reply.mono _
  replies := by
    intro answered answeredMem
    have bound := earlier.replies answered answeredMem
    simp only [SaveHistory.asked]
    omega

theorem preserved : saveMachine.Preserved (fun state => state.2.Earlier) := by
  apply observed_preserved
  intro before history event after outputs earlier _
  cases event with
  | speech event => exact earlier.heard _ event
  | _ => exact earlier.asked _ _ _

end SaveHistory.Earlier

theorem not_answers_of_earlier {history : SaveHistory} (earlier : history.Earlier)
    (location : LocationModel) : ¬history.Answers history.requests location := by
  rintro ⟨named, _⟩
  have bound := earlier.replies _ named
  simp at bound

/-- The locations saved in a run carry the replies to their own requests exactly when none is
saved. -/
theorem saves_iff_nothing (realm : RealmManager) (events : List Event) :
    saveMachine.Always SaveLaw (start realm, {}) events ↔
      machine.Always SavesNothing (start realm) events := by
  have sameRuns : saveMachine.Always (fun before event => SavesNothing before.1 event)
      (start realm, {}) events ↔ machine.Always SavesNothing (start realm) events :=
    Always.observed_iff
  rw [← sameRuns]
  apply Always.congr
  intro before event reached _
  have earlier := reached.invariant SaveHistory.Earlier.preserved SaveHistory.Earlier.initial
  constructor
  · intro law after outputs location handled isSaved
    exact not_answers_of_earlier earlier location (law after outputs location handled isSaved)
  · intro nothing after outputs location handled isSaved
    exact absurd isSaved (nothing after outputs location handled)

def firstSave : List Event :=
  [.launch, .home (.swipe .left)]

/-- The location is stored without a name and without a placemark. -/
theorem firstSave_unnamed :
    (∃ finish, machine.Run (start {}) firstSave finish ∧ finish.realm.locations = [{}] ∧
      finish.speechManager.namePrompts = 1) ∧
      ¬saveMachine.Always SaveLaw (start {}, {}) firstSave := by
  refine ⟨⟨_, .of_exec rfl, rfl, rfl⟩, ?_⟩
  apply Always.not_of_exec (firstSave.take 1) [] rfl rfl
  intro law
  have answered := (law _ _ {} rfl (List.mem_singleton.mpr rfl)).1
  exact absurd answered List.not_mem_nil

end VisionApp.App
