import VisionApp.ViewController.HomeViewController

/-!
# The whole app

The app is one speech manager, one location manager, one store of locations, one
home screen at the bottom of a navigation stack, and a new vision screen for
every segue. They meet in three globals: `AppDelegate.visionDelegate`, the
notification centre, and the navigation stack. The components' outputs are
carried out here, in the order in which the source makes the calls.

A notification reaches the vision screens that registered for it and still
exist. The notification centre does not keep its observers alive, so a screen
that was popped exists only as long as it is the `visionDelegate` or a task on
its queue has not ended. The block that announces a result holds its screen
weakly, and does nothing when the screen is gone.
-/

namespace VisionApp

/-- A view controller; a vision screen is named by the number of segues before its own. -/
inductive Controller where
  | home
  | vision (screen : ℕ)
deriving DecidableEq, Repr

structure App where
  speechManager : SpeechManager := {}
  locationManager : LocationManager := {}
  realm : RealmManager := {}
  home : HomeViewController := {}
  /-- The vision screens that were presented, the oldest first. -/
  visions : List VisionViewController := []
  /-- The stack of the navigation controller, the controller on screen first. -/
  stack : List Controller := []
  visionDelegate : Option Controller := none
  /-- The vision screens that registered for next-move notifications. -/
  observers : List ℕ := []
  /-- Pending 2 s blocks of `VisionDelegate.whereAmI`. -/
  whereAmIBlocks : ℕ := 0
deriving DecidableEq, Repr

namespace App

inductive Output where
  | delegate (receiver : Controller) (call : DelegateCall)
  | scrollToRow (row : ℤ)
  | saveLocation (location : LocationModel)
  | post (nexStep : String)
deriving DecidableEq, Repr

/-- The app as it starts, with the locations that earlier runs of it saved. -/
def start (realm : RealmManager) : App where
  realm := realm

def onScreen (app : App) : Option Controller :=
  app.stack.head?

/-- Besides the stack and the delegate, the closure of every task on `visionQueue` holds its
screen. -/
def isAlive (app : App) (screen : ℕ) : Bool :=
  app.stack.contains (.vision screen) || app.visionDelegate = some (.vision screen) ||
    app.visions[screen]?.any (fun controller => !controller.visionQueue.isEmpty)

def liveObservers (app : App) : List ℕ :=
  app.observers.filter app.isAlive

def voiceOutput (app : App) (message : String) (commandType : VoiceCommand) : App :=
  { app with speechManager := app.speechManager.voiceOutput message commandType }

/-- `NotificationCenter.default.post`, which runs `nextMoveSelector` of every live observer. -/
def post (app : App) (nexStep : String) : App :=
  app.liveObservers.foldl (fun app _ => app.voiceOutput nexStep .voiceCommandInfo) app

/-- `VisionDelegate.whereAmI()`, which both controllers inherit from the extension. -/
def whereAmI (app : App) : App :=
  { app with whereAmIBlocks := app.whereAmIBlocks + 1 }

def saveCompletion (app : App) (isSuccess : Bool) : App :=
  if isSuccess then app.voiceOutput "Location Saved successfully " .voiceCommandInfo
  else app.voiceOutput "Couldn't save location" .voiceCommandInfo

/-- `saveThisLocation` with `LocationManager.saveCurrentLocation`. -/
def saveThisLocation (app : App) : App × List Output :=
  let (speechManager, locInput) := app.speechManager.inputsToSaveLocation
  let newLocation := app.locationManager.newLocation locInput
  let app := { app with
    speechManager := speechManager
    realm := app.realm.saveLocation newLocation }
  (app.saveCompletion true, [.saveLocation newLocation])

def getUserLocatoin (app : App) : App :=
  { app with locationManager := app.locationManager.getUserLocatoin }

def visionViewDidLoad (app : App) (screen : ℕ) : App :=
  { app with
    visionDelegate := some (.vision screen)
    observers := app.observers ++ [screen] }

def visionViewWillAppear (app : App) (screen : ℕ) : App :=
  match app.visions[screen]? with
  | some controller =>
      { app with
        visions := app.visions.set screen controller.viewWillAppear.1
        locationManager := app.locationManager.visionWillAppear controller }
  | none => app

/-- The segue makes a controller from the storyboard, offers it to `prepare(for:sender:)`, which
no class overrides, and shows it. -/
def performSegue (app : App) : App :=
  let screen := app.visions.length
  let app := { app with
    visions := app.visions ++ [({} : VisionViewController)]
    stack := .vision screen :: app.stack }
  (app.visionViewDidLoad screen).visionViewWillAppear screen

def homeViewWillAppear (app : App) : App :=
  { app with home := app.home.viewWillAppear app.realm.getLocationList }

def popViewController (app : App) : App :=
  ({ app with stack := app.stack.tail }).homeViewWillAppear

section Outputs

variable {Request : Type*}

def performAll (perform : App → Request → Except Trap (App × List Output)) :
    App → List Request → Except Trap (App × List Output)
  | app, [] => .ok (app, [])
  | app, request :: requests => do
      let (app, first) ← perform app request
      let (app, rest) ← performAll perform app requests
      return (app, first ++ rest)

end Outputs

def performHome (app : App) : HomeViewController.Output → Except Trap (App × List Output)
  | .voiceOutput message commandType => .ok (app.voiceOutput message commandType, [])
  | .scrollToRow row => .ok (app, [.scrollToRow row])
  | .performSegue _ => .ok (app.performSegue, [])
  | .saveThisLocation => .ok app.saveThisLocation
  | .whereAmI =>
      match app.visionDelegate with
      | some receiver => .ok (app.whereAmI, [.delegate receiver .whereAmI])
      | none => .ok (app, [])

def runHome (app : App) (event : HomeViewController.Event) : Except Trap (App × List Output) := do
  let (home, requests) ← app.home.handle event
  performAll performHome { app with home := home } requests

/-- A vision screen has the extension's empty `NavigateToVision` and `filterLocationList`. -/
def dispatch (app : App) : Controller → DelegateCall → Except Trap (App × List Output)
  | .home, .navigateToVision isLocalLocation => app.runHome (.navigateToVision isLocalLocation)
  | .home, .filterLocationList filterInput => app.runHome (.filterLocationList filterInput)
  | .vision _, .navigateToVision _ => .ok (app, [])
  | .vision _, .filterLocationList _ => .ok (app, [])
  | _, .whereAmI => .ok (app.whereAmI, [])

def callDelegate (app : App) (call : DelegateCall) : Except Trap (App × List Output) :=
  match app.visionDelegate with
  | none => .error .unexpectedNil
  | some receiver => do
      let (app, outputs) ← app.dispatch receiver call
      return (app, .delegate receiver call :: outputs)

def performSpeech (app : App) : SpeechManager.Output → Except Trap (App × List Output)
  | .visionDelegate call => app.callDelegate call
  | .playSystemSound => .ok (app, [])
  | .inputs _ _ => .ok (app, [])

def runSpeech (app : App) (event : SpeechManager.Event) : Except Trap (App × List Output) :=
  let (speechManager, requests) := app.speechManager.handle event
  performAll performSpeech { app with speechManager := speechManager } requests

/-- Every caller of `getUserLocatoin` speaks the location it completes with. -/
def performLocation (app : App) : LocationManager.Output → Except Trap (App × List Output)
  | .post nexStep => .ok (app.post nexStep, [.post nexStep])
  | .completion location => .ok (app.voiceOutput ("You are at " ++ location) .voiceCommandInfo, [])

def runLocation (app : App) (event : LocationManager.Event) : Except Trap (App × List Output) := do
  let (locationManager, requests) ← app.locationManager.handle event
  performAll performLocation { app with locationManager := locationManager } requests

def performVision (app : App) : VisionViewController.Output → Except Trap (App × List Output)
  | .voiceOutput message commandType => .ok (app.voiceOutput message commandType, [])
  | .saveThisLocation => .ok app.saveThisLocation
  | .getUserLocatoin => .ok (app.getUserLocatoin, [])
  | .popViewController => .ok (app.popViewController, [])

/-- What a handler of a vision screen asks for. `displayClassifierResults` is called on `self?`. -/
def unlessGone (app : App) (screen : ℕ) (event : VisionViewController.Event)
    (requests : List VisionViewController.Output) : List VisionViewController.Output :=
  match event with
  | .displayBlock => if app.isAlive screen then requests else []
  | _ => requests

def runVision (app : App) (screen : ℕ) (event : VisionViewController.Event) :
    Except Trap (App × List Output) :=
  match app.visions[screen]? with
  | none => .ok (app, [])
  | some controller => do
      let (controller, requests) ← controller.handle event
      performAll performVision { app with visions := app.visions.set screen controller }
        (app.unlessGone screen event requests)

inductive Event where
  | launch
  | home (event : HomeViewController.Event)
  | vision (screen : ℕ) (event : VisionViewController.Event)
  | back
  | speech (event : SpeechManager.Event)
  | location (event : LocationManager.Event)
  | whereAmIBlock
deriving DecidableEq, Repr

/-- Gestures and edits need their screen; the store is read as it is. The handlers that only the
app's own code calls are not events of the app. -/
def enabledHome (app : App) (event : HomeViewController.Event) : Bool :=
  match event with
  | .swipe _ | .tap | .longPress | .textDidChange _ => app.onScreen = some .home
  | .searchTimer saved =>
      decide (saved = app.realm.getLocationList) && app.home.enabled event
  | .searchCompleted _ _ | .tableLayout | .cellForRowAt _ => app.home.enabled event
  | .viewWillAppear _ | .navigateToVision _ | .filterLocationList _ => false

def enabledVision (app : App) (screen : ℕ) (event : VisionViewController.Event) : Bool :=
  match app.visions[screen]? with
  | none => false
  | some controller =>
      match event with
      | .swipe _ | .tap | .longPress | .sessionDidUpdate _ _ _ =>
          app.onScreen = some (.vision screen)
      | .taskPerformed _ _ | .taskEnded | .displayBlock => controller.enabled event

def enabledSpeech (app : App) (event : SpeechManager.Event) : Bool :=
  match event with
  | .voiceOutput _ _ | .voiceInput _ | .inputsToSaveLocation => false
  | _ => app.speechManager.enabled event

/-- Besides the callbacks, the public operations of the location manager may be called, although
no code of the app calls `initRoute`, or `takeMeThere` and the setter outside the manager and the
vision screen. -/
def enabledLocation (app : App) (event : LocationManager.Event) : Bool :=
  match event with
  | .visionWillAppear _ | .getUserLocatoin => false
  | _ => app.locationManager.enabled event

def enabled (app : App) : Event → Bool
  | .launch => app.stack.isEmpty
  | .home event => app.enabledHome event
  | .vision screen event => app.enabledVision screen event
  | .back => 1 < app.stack.length
  | .speech event => app.enabledSpeech event
  | .location event => app.enabledLocation event
  | .whereAmIBlock => 0 < app.whereAmIBlocks

def handle (app : App) : Event → Except Trap (App × List Output)
  | .launch => .ok (({ app with stack := [.home] }).homeViewWillAppear, [])
  | .home event => app.runHome event
  | .vision screen event => app.runVision screen event
  | .back => .ok (app.popViewController, [])
  | .speech event => app.runSpeech event
  | .location event => app.runLocation event
  | .whereAmIBlock =>
      .ok (({ app with whereAmIBlocks := app.whereAmIBlocks - 1 }).getUserLocatoin, [])

def machine : EventMachine.Machine App Event Output Trap where
  enabled := enabled
  handle := handle

end App

end VisionApp
