import VisionApp.App.Composition
import VisionApp.SpeechKit.Accounts

/-!
# How much the app says and hears

The speech manager's accounts, read off the events of the app. Whatever the
screens, the location manager and the classifier ask it to say, the app says one
thing at its start and one more for every 20 s timer that ran. It listens at most
once for every utterance that ended, and acts on what it heard at most once in
its life.
-/

namespace VisionApp.App

open EventMachine

theorem actions_le_one {realm : RealmManager} {events : List Event} {app : App}
    (run : machine.Run (start realm) events app) :
    events.count (.speech .voiceInputAction) ≤ 1 := by
  rcases (speechComponent realm).run run with ⟨speechEvents, speechRun, callbacks⟩
  have acted : speechEvents.countP SpeechManager.isAction = events.countP (fun event =>
      (speechCallback event).any SpeechManager.isAction) := by
    apply (speechComponent realm).countP_callbacks callbacks
    intro event acts
    cases event <;> first | rfl | simp [SpeechManager.isAction] at acts
  have counted : events.count (.speech .voiceInputAction) = speechEvents.countP
      SpeechManager.isAction := by
    rw [acted, List.count]
    apply List.countP_congr
    intro event _
    cases event with
    | speech event => cases event <;> simp [speechCallback, SpeechManager.isAction]
    | _ => simp [speechCallback]
  rw [counted]
  exact SpeechManager.actions_le_one speechRun

/-- The delegate is called for a double tap at home, and by `voiceInputAction`. -/
theorem caller_of_delegate {before after : App} {event : Event} {outputs : List Output}
    {receiver : Controller} {call : DelegateCall} (navigated : before.Navigated)
    (step : machine.Step before event after outputs)
    (called : .delegate receiver call ∈ outputs) :
    event = .home .tap ∧ call = .whereAmI ∨ event = .speech .voiceInputAction := by
  rcases delivered_of_step navigated step with ⟨middle, calls, delivered, carried⟩
  have calledIn : .delegate receiver call ∈ (middle.carryOutAll calls).2 := by
    rw [carried]
    exact called
  rcases mem_carryOutAll calledIn with ⟨made, madeMem, between, output⟩
  have isCall := delegate_of_carryOut output
  cases delivered with
  | launch notLaunched => simp at madeMem
  | @home event home requests isEnabled handled =>
      rcases List.mem_map.mp madeMem with ⟨request, requestMem, rfl⟩
      rcases isCall with same | ⟨same, isWhereAmI⟩
      · cases request <;> simp [homeCall] at same
      · have asked : .whereAmI ∈ requests := by
          cases request <;> first | exact requestMem | simp [homeCall] at same
        rw [(HomeViewController.asks_of_handle handled).tap asked]
        exact Or.inl ⟨rfl, isWhereAmI⟩
  | vision present isEnabled handled received =>
      rcases List.mem_map.mp madeMem with ⟨request, _, rfl⟩
      cases request <;> simp [visionCall] at isCall
  | back covered =>
      rw [List.mem_singleton.mp madeMem] at isCall
      simp at isCall
  | speech isEnabled received =>
      rcases delegate_of_speechCall madeMem with ⟨_, asked, requestMem, _⟩
      rw [SpeechManager.isAction_of_delegate requestMem]
      exact Or.inr rfl
  | location isEnabled handled =>
      rcases List.mem_map.mp madeMem with ⟨request, _, rfl⟩
      cases request <;> simp [locationCall] at isCall
  | whereAmIBlock pending =>
      rw [List.mem_singleton.mp madeMem] at isCall
      simp at isCall

/-- But for the double tap at home, which asks for the address, the delegate is called at most once
in a run, and never after a reply was acted on. -/
theorem delegate_once {realm : RealmManager} {events : List Event} {app after : App}
    {event : Event} {outputs : List Output} {receiver : Controller} {call : DelegateCall}
    (run : machine.Run (start realm) events app) (step : machine.Step app event after outputs)
    (called : .delegate receiver call ∈ outputs) :
    event = .home .tap ∧ call = .whereAmI ∨
      event = .speech .voiceInputAction ∧ .speech .voiceInputAction ∉ events := by
  rcases caller_of_delegate (navigated_of_reachable run.reachable) step called with
    tapped | isAction
  · exact Or.inl tapped
  · refine Or.inr ⟨isAction, ?_⟩
    have bounded := actions_le_one (run.snoc step)
    rw [isAction, List.count_append, List.count_singleton_self] at bounded
    apply List.count_eq_zero.mp
    omega

/-- The address is asked for by a double tap at home, and then by voice. -/
def askWhereAmI : List Event :=
  [.launch, .home .longPress, .home (.swipe .right), .vision 0 (.swipe .left), .home .tap,
    .speech (.didFinish true), .speech (.recognition 0 (some "Where am I") false)]

theorem askWhereAmI_once :
    ∃ app after, machine.Run (start {}) askWhereAmI app ∧ app.whereAmIBlocks = 1 ∧
      machine.Step app (.speech .voiceInputAction) after [.delegate (.vision 0) .whereAmI] ∧
      .speech .voiceInputAction ∉ askWhereAmI := by
  have run : machine.Run (start {}) askWhereAmI
      ((machine.exec (start {}) askWhereAmI).getD {}) := .of_exec rfl
  have step : machine.Step ((machine.exec (start {}) askWhereAmI).getD {})
      (.speech .voiceInputAction)
      ((machine.exec (start {}) (askWhereAmI ++ [.speech .voiceInputAction])).getD {})
      [.delegate (.vision 0) .whereAmI] := ⟨rfl, rfl⟩
  rcases delegate_once run step (List.mem_singleton.mpr rfl) with ⟨tapped, _⟩ | ⟨_, first⟩
  · simp at tapped
  · exact ⟨_, _, run, rfl, step, first⟩

end VisionApp.App
