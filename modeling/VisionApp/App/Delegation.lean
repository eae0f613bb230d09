import VisionApp.App.Effects

/-!
# The receiver of voice commands

Voice commands go to `AppDelegate.visionDelegate`, which only
`VisionViewController.viewDidLoad` writes. It is nil until the vision screen is
first opened, and from then on the screen opened last, also when that screen is
gone and the home screen is on top again.
-/

namespace VisionApp.App

open EventMachine EventMachine.Machine

/-- The home screen is at the bottom, with at most the newest vision screen above it, and the
delegate is the newest vision screen. -/
structure Navigated (app : App) : Prop where
  stack : app.stack = [] ∨ app.stack = [.home] ∨
    ∃ screen, screen + 1 = app.visions.length ∧ app.stack = [.vision screen, .home]
  delegate : ∀ receiver, app.visionDelegate = some receiver ↔
    ∃ screen, screen + 1 = app.visions.length ∧ receiver = .vision screen

theorem Navigated.start (realm : RealmManager) : Navigated (start realm) where
  stack := Or.inl rfl
  delegate := by
    intro receiver
    simp [App.start]

theorem Effect.navigated {before after : App} (effect : Effect before after)
    (navigated : before.Navigated) : after.Navigated := by
  cases effect with
  | launch notLaunched => exact ⟨Or.inr (Or.inl rfl), navigated.delegate⟩
  | pop =>
      refine ⟨?_, navigated.delegate⟩
      rcases navigated.stack with empty | atHome | ⟨screen, _, onVision⟩
      · left
        simp [empty]
      · left
        simp [atHome]
      · right; left
        simp [onVision]
  | present fromHome =>
      have atHome : before.stack = [.home] := by
        rcases navigated.stack with empty | atHome | ⟨screen, _, onVision⟩
        · simp [onScreen, empty] at fromHome
        · exact atHome
        · simp [onScreen, onVision] at fromHome
      constructor
      · right; right
        exact ⟨before.visions.length, by simp, by rw [atHome]⟩
      · intro receiver
        simp only [Option.some.injEq, List.length_append, List.length_cons, List.length_nil]
        constructor
        · rintro rfl
          exact ⟨_, rfl, rfl⟩
        · rintro ⟨screen, newest, rfl⟩
          rw [Nat.succ.inj newest]
  | vision updated present sameDestination =>
      refine ⟨?_, ?_⟩
      · simpa using navigated.stack
      · simpa using navigated.delegate
  | speech event isEnabled => exact ⟨navigated.stack, navigated.delegate⟩
  | location event step => exact ⟨navigated.stack, navigated.delegate⟩
  | home event step => exact ⟨navigated.stack, navigated.delegate⟩
  | save location => exact ⟨navigated.stack, navigated.delegate⟩
  | whereAmI blocks => exact ⟨navigated.stack, navigated.delegate⟩

theorem navigated_of_reachable {realm : RealmManager} {app : App}
    (reached : machine.Reachable (start realm) app) : app.Navigated :=
  invariant_of_effect (fun _ _ effect navigated => effect.navigated navigated)
    (Navigated.start realm) reached

def ReadsCommand (before : App) (event : Event) : Prop :=
  event = .speech .voiceInputAction ∧
    before.speechManager.currentSpeechCommad = .voiceCommandAwakeInteractor

def recognised (before : App) : Option DelegateCall :=
  SpeechManager.awakeInteractorCall (trimmingCharacters before.speechManager.voiceInputMessage)

/-- A command is read only while the delegate is the controller on screen; on the home screen, the
command to walk and the command to go somewhere reach it. -/
def DelegationLaw (before : App) (event : Event) : Prop :=
  ReadsCommand before event →
    (∃ controller, before.visionDelegate = some controller ∧
      before.onScreen = some controller) ∧
      (before.onScreen = some .home → ∀ call, before.recognised = some call →
        call ≠ .whereAmI →
          before.handle event ≠ .error .unexpectedNil ∧
            ∀ after outputs, before.handle event = .ok (after, outputs) →
              .delegate .home call ∈ outputs)

def ReadsOnVision (before : App) (event : Event) : Prop :=
  ReadsCommand before event → ∃ screen, before.onScreen = some (.vision screen)

theorem delegationLaw_iff {before : App} (navigated : before.Navigated) (event : Event) :
    DelegationLaw before event ↔ ReadsOnVision before event := by
  apply imp_congr_right
  intro _
  constructor
  · rintro ⟨⟨controller, isDelegate, isShown⟩, _⟩
    rcases (navigated.delegate controller).mp isDelegate with ⟨screen, _, rfl⟩
    exact ⟨screen, isShown⟩
  · rintro ⟨screen, isShown⟩
    have newest : screen + 1 = before.visions.length := by
      rcases navigated.stack with empty | atHome | ⟨newest, isNewest, onVision⟩
      · simp [onScreen, empty] at isShown
      · simp [onScreen, atHome] at isShown
      · simp only [onScreen, onVision, List.head?_cons, Option.some.injEq,
          Controller.vision.injEq] at isShown
        rw [← isShown]
        exact isNewest
    constructor
    · exact ⟨.vision screen, (navigated.delegate _).mpr ⟨screen, newest, rfl⟩, isShown⟩
    · intro atHome
      rw [isShown] at atHome
      simp at atHome

/-- Commands reach the controller on screen throughout a run exactly when each is read while a
vision screen is on top. -/
theorem delegation_iff_onVision (realm : RealmManager) (events : List Event) :
    machine.Always DelegationLaw (start realm) events ↔
      machine.Always ReadsOnVision (start realm) events := by
  apply Always.congr
  intro before event reached _
  exact delegationLaw_iff (navigated_of_reachable reached) event

def commandAtHome : List Event :=
  [.launch, .home .longPress, .speech (.didFinish true),
    .speech (.recognition 0 (some "Let's walk") false), .speech .voiceInputAction]

/-- The vision screen was not opened yet: unwrapping the delegate crashes the app. -/
theorem commandAtHome_traps :
    (∃ before, machine.Run (start {}) (commandAtHome.take 4) before ∧
      before.handle (.speech .voiceInputAction) = .error .unexpectedNil) ∧
      ¬machine.Always DelegationLaw (start {}) commandAtHome := by
  refine ⟨⟨_, .of_exec rfl, rfl⟩, ?_⟩
  apply Always.not_of_exec (commandAtHome.take 4) [] rfl rfl
  intro law
  rcases law ⟨rfl, rfl⟩ with ⟨⟨controller, isDelegate, _⟩, _⟩
  have isNil : none = some controller := isDelegate
  simp at isNil

end VisionApp.App
