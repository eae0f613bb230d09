import VisionApp.EventMachine.History
import VisionApp.SpeechKit.Listening
import VisionApp.SpeechKit.Speaking

/-!
# Command types

`currentSpeechCommad` is the type of the utterance accepted last. It stands both
for the utterance that is ending, which decides whether the manager listens, and
for the session that is listening, which decides how a reply is read. The three
agree as long as no utterance is accepted with a different type while others wait
for their end, or while a reply waits for its action.

A history variable records which type each of them was accepted with.
-/

namespace VisionApp.SpeechManager

open EventMachine EventMachine.Machine

structure CommandHistory where
  /-- The types that the utterances of `synthesizer` were accepted with. -/
  spoken : List VoiceCommand := []
  /-- For every session, the type of the utterance whose end opened it. -/
  prompts : List (Option VoiceCommand) := []
  /-- The type of the prompt whose session produced `voiceInputMessage`. -/
  reply : Option VoiceCommand := none
deriving DecidableEq, Repr

namespace CommandHistory

def answered (history : CommandHistory) : Event → Option VoiceCommand
  | .recognition task (some _) _ => history.prompts[task]?.join
  | _ => none

def observe (history : CommandHistory) (before : SpeechManager) (event : Event)
    (after : SpeechManager) : CommandHistory where
  spoken :=
    (if isEnd event then history.spoken.tail else history.spoken) ++
      ((before.accepted event).map Prod.snd).toList
  prompts :=
    if before.sessions < after.sessions then
      history.prompts ++ [if isEnd event then history.spoken.head? else none]
    else history.prompts
  reply := if isResult event then history.answered event else history.reply

end CommandHistory

def commandMachine :=
  machine.observed (fun history before event after _ =>
    CommandHistory.observe history before event after)

/-- Listening starts only at the end of an utterance accepted as a command, and an action reads
the reply under the type of the prompt that it answers. -/
def CommandLaw (before : SpeechManager × CommandHistory) (event : Event) : Prop :=
  (before.1.sessions < (before.1.handle event).1.sessions →
    isEnd event = true ∧
      ∃ commandType, before.2.spoken.head? = some commandType ∧
        commandType ≠ .voiceCommandInfo) ∧
    (event = .voiceInputAction → before.2.reply = some before.1.currentSpeechCommad)

/-- What the step accepts has the type of every utterance still to end, unless it is no command,
and the type in force while an action is pending; a result that an action will read answers a
prompt of the type in force. -/
def CommandSettled (before : SpeechManager × CommandHistory) (event : Event) : Prop :=
  (∀ call ∈ before.1.accepted event,
    (call.2 = .voiceCommandInfo ∨ ∀ waiting ∈ before.2.spoken, waiting = call.2) ∧
      (event ≠ .voiceInputAction → 0 < before.1.actionTimers →
        call.2 = before.1.currentSpeechCommad)) ∧
    (isResult event = true → before.1.listeningSempahor = true ∨ 0 < before.1.actionTimers →
      before.2.answered event = some before.1.currentSpeechCommad)

instance (before : SpeechManager × CommandHistory) (event : Event) :
    Decidable (CommandSettled before event) :=
  inferInstanceAs (Decidable (_ ∧ _))

/-- The history follows the queue, the types agree, and there is never a second action. -/
structure CommandAgree (state : SpeechManager × CommandHistory) : Prop where
  queued : state.2.spoken.length = state.1.synthesizer.length
  waiting : state.1.currentSpeechCommad = .voiceCommandInfo ∨
    ∀ commandType ∈ state.2.spoken, commandType = state.1.currentSpeechCommad
  awaited : 0 < state.1.actionTimers → state.2.reply = some state.1.currentSpeechCommad
  single : state.1.actionTimers ≤ if state.1.listeningSempahor then 0 else 1

theorem accepted_of_isEnd {before : SpeechManager} {event : Event} (ends : isEnd event = true) :
    before.accepted event = none := by
  cases event with
  | didFinish engineStarts => simp [accepted, offered]
  | _ => simp [isEnd] at ends

theorem accepted_of_isResult {before : SpeechManager} {event : Event}
    (isHeard : isResult event = true) : before.accepted event = none := by
  cases event with
  | recognition task result error => simp [accepted, offered]
  | _ => simp [isResult] at isHeard

namespace CommandAgree

variable {before after : SpeechManager × CommandHistory} {event : Event} {outputs : List Output}

theorem initial : CommandAgree ({}, {}) where
  queued := rfl
  waiting := Or.inl rfl
  awaited := by simp
  single := by simp

theorem queued_step (agree : CommandAgree before) (event : Event) :
    (before.2.observe before.1 event (before.1.handle event).1).spoken.length =
      (before.1.handle event).1.synthesizer.length := by
  have sameLength := agree.queued
  rw [synthesizer_handle]
  simp only [CommandHistory.observe, List.length_append]
  cases before.1.accepted event with
  | none => split <;> simp [sameLength]
  | some call => split <;> simp [sameLength]

theorem waiting_step (agree : CommandAgree before) (settled : CommandSettled before event) :
    (before.1.handle event).1.currentSpeechCommad = .voiceCommandInfo ∨
      ∀ commandType ∈ (before.2.observe before.1 event (before.1.handle event).1).spoken,
        commandType = (before.1.handle event).1.currentSpeechCommad := by
  rw [currentSpeechCommad_handle]
  cases isAccepted : before.1.accepted event with
  | none =>
      rcases agree.waiting with isInfo | same
      · exact Or.inl isInfo
      · right
        intro commandType member
        simp only [CommandHistory.observe, isAccepted, Option.map_none, Option.toList_none,
          List.append_nil] at member
        apply same commandType
        split at member
        · exact List.mem_of_mem_tail member
        · exact member
  | some call =>
      have stays : isEnd event = false := by
        by_contra ends
        simp [accepted_of_isEnd (Bool.not_eq_false _ ▸ ends)] at isAccepted
      rcases (settled.1 call isAccepted).1 with isInfo | same
      · exact Or.inl isInfo
      · right
        intro commandType member
        simp only [CommandHistory.observe, isAccepted, stays, Bool.false_eq_true, if_false,
          Option.map_some, Option.toList_some, List.mem_append, List.mem_singleton] at member
        rcases member with earlier | rfl
        · exact same commandType earlier
        · rfl

theorem awaited_step (agree : CommandAgree before) (settled : CommandSettled before event)
    (isPending : 0 < (before.1.handle event).1.actionTimers) :
    (before.2.observe before.1 event (before.1.handle event).1).reply =
      some (before.1.handle event).1.currentSpeechCommad := by
  have bound := agree.single
  have heard (isHeard : isResult event = true)
      (isRead : before.1.listeningSempahor = true ∨ 0 < before.1.actionTimers) :
      (before.2.observe before.1 event (before.1.handle event).1).reply =
        some (before.1.handle event).1.currentSpeechCommad := by
    rw [currentSpeechCommad_handle, accepted_of_isResult isHeard]
    simpa [CommandHistory.observe, isHeard] using settled.2 isHeard isRead
  rcases listening_cases before.1 event with
    ⟨isAction, _, fewer⟩ | ⟨isHeard, wasOpen, _, _⟩ | ⟨noAction, _, _, sameTimers⟩
  · exfalso
    split at bound <;> omega
  · exact heard isHeard (Or.inl wasOpen)
  · rw [sameTimers] at isPending
    cases isHeard : isResult event with
    | true => exact heard isHeard (Or.inr isPending)
    | false =>
        rw [currentSpeechCommad_handle]
        simp only [CommandHistory.observe, isHeard, Bool.false_eq_true, if_false]
        rw [agree.awaited isPending]
        cases isAccepted : before.1.accepted event with
        | none => rfl
        | some call =>
            have same := (settled.1 call isAccepted).2 noAction isPending
            simp [same]

theorem single_step (agree : CommandAgree before) (event : Event) :
    (before.1.handle event).1.actionTimers ≤
      if (before.1.handle event).1.listeningSempahor then 0 else 1 := by
  have bound := agree.single
  rcases listening_cases before.1 event with
    ⟨_, sameFlag, fewer⟩ | ⟨_, wasOpen, closed, scheduled⟩ | ⟨_, _, sameFlag, sameTimers⟩
  · rw [sameFlag, fewer]
    omega
  · simp only [wasOpen, if_true] at bound
    simp only [closed, scheduled, Bool.false_eq_true, if_false]
    omega
  · rw [sameFlag, sameTimers]
    exact bound

theorem step (agree : CommandAgree before) (settled : CommandSettled before event)
    (stepped : commandMachine.Step before event after outputs) :
    CommandAgree after := by
  rcases observed_step_iff.mp stepped with ⟨machineStep, recorded⟩
  have handled := (machine_step_iff.mp machineStep).2
  rcases after with ⟨manager, history⟩
  have reached : manager = (before.1.handle event).1 := by rw [handled]
  simp only at recorded
  subst recorded reached
  exact
    { queued := agree.queued_step event
      waiting := agree.waiting_step settled
      awaited := agree.awaited_step settled
      single := agree.single_step event }

theorem law (agree : CommandAgree before) (isEnabled : before.1.enabled event = true)
    (indirect : ∀ engineStarts, event ≠ .voiceInput engineStarts) : CommandLaw before event := by
  constructor
  · intro opened
    rw [sessions_handle] at opened
    cases event with
    | didFinish engineStarts =>
        refine ⟨rfl, ?_⟩
        simp only at opened
        split at opened
        · rename_i isCommand
          have sameLength := agree.queued
          cases speaking : before.2.spoken with
          | nil =>
              simp only [speaking, List.length_nil] at sameLength
              simp [enabled, List.eq_nil_of_length_eq_zero sameLength.symm] at isEnabled
          | cons first rest =>
              refine ⟨first, rfl, ?_⟩
              rcases agree.waiting with isInfo | same
              · exact absurd isInfo isCommand
              · rw [same first (by simp [speaking])]
                exact isCommand
        · omega
    | voiceInput engineStarts => exact absurd rfl (indirect engineStarts)
    | _ => simp at opened
  · intro isAction
    subst isAction
    apply agree.awaited
    simpa [enabled] using isEnabled

end CommandAgree

/-- A run whose steps are all settled starts to listen only after commands, and reads every
reply under the type of its prompt. -/
theorem commandLaw_of_settled {events : List Event}
    (indirect : ∀ engineStarts, .voiceInput engineStarts ∉ events)
    (settled : commandMachine.Always CommandSettled ({}, {}) events) :
    commandMachine.Always CommandLaw ({}, {}) events := by
  have meets : commandMachine.Always
      (fun before event => CommandSettled before event ∧
        ∀ engineStarts, event ≠ .voiceInput engineStarts) ({}, {}) events := by
    intro earlier event later before shape run isEnabled
    refine ⟨settled earlier event later before shape run isEnabled, ?_⟩
    rintro engineStarts rfl
    exact indirect engineStarts (by simp [shape])
  have kept : ∀ before event after outputs, CommandAgree before →
      (CommandSettled before event ∧ ∀ engineStarts, event ≠ .voiceInput engineStarts) →
        commandMachine.Step before event after outputs → CommandAgree after := by
    intro before event after outputs agree guarded stepped
    exact agree.step guarded.1 stepped
  have obeys : ∀ before event, CommandAgree before →
      (CommandSettled before event ∧ ∀ engineStarts, event ≠ .voiceInput engineStarts) →
        commandMachine.enabled before event = true → CommandLaw before event := by
    intro before event agree guarded isEnabled
    exact agree.law isEnabled guarded.2
  exact Always.of_guarded kept obeys CommandAgree.initial meets

theorem promptReply_read :
    commandMachine.Always CommandLaw ({}, {})
      [.voiceOutput "Hi I am Listening" .voiceCommandAwakeInteractor, .didFinish true,
        .recognition 0 (some "Let's walk") false, .voiceInputAction] :=
  commandLaw_of_settled (by simp)
    (.cons rfl (by decide) (.cons rfl (by decide) (.cons rfl (by decide) (.cons rfl (by decide)
      .nil))))

def lateReply : List Event :=
  [.voiceOutput "Hi I am Listening" .voiceCommandAwakeInteractor, .didFinish true,
    .recognition 0 (some "Let's walk") false, .gateTimer,
    .voiceOutput "Detected chair" .voiceCommandInfo, .voiceInputAction]

/-- The command is read as information, so nothing is called. -/
theorem lateReply_lost :
    (∃ before, machine.Run {} (lateReply.take 5) before ∧
      (before.handle .voiceInputAction).2 = []) ∧
      ¬commandMachine.Always CommandLaw ({}, {}) lateReply := by
  refine ⟨⟨_, .of_exec rfl, by decide⟩, ?_⟩
  apply Always.not_of_exec (lateReply.take 5) [] rfl rfl
  rintro ⟨_, reads⟩
  exact absurd (reads rfl) (by decide)

end VisionApp.SpeechManager
