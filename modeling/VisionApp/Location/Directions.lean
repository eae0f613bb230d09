import Mathlib.Data.List.InsertIdx
import VisionApp.EventMachine.History
import VisionApp.EventMachine.InFlight
import VisionApp.Location.LocationManager

/-!
# Whose answer is announced

Any number of directions requests can be outstanding, and the closure that a
request completes with knows neither the request nor its destination. A history
variable numbers the requests in the order in which they are made and keeps, for
each, the destination that was in force then. What a completion posts stems from
the answer to its own request. Whether that request is still the right one is up
to the order of events: nothing cancels a request when the destination changes,
and nothing holds back an answer that was overtaken.
-/

namespace VisionApp.LocationManager

open EventMachine EventMachine.Machine

structure DirectionsRequest where
  number : ℕ
  madeFor : CLLocationCoordinate2D
deriving DecidableEq, Repr

structure DirectionsHistory where
  made : ℕ := 0
  /-- The requests whose `MKDirections` are being calculated, in the same order. -/
  outstanding : List DirectionsRequest := []
  /-- The numbers of the requests whose answers were announced. -/
  announced : List ℕ := []
deriving DecidableEq, Repr

namespace DirectionsHistory

def make (history : DirectionsHistory) (count : ℕ) (destination : CLLocationCoordinate2D) :
    DirectionsHistory :=
  { history with
    made := history.made + count
    outstanding := history.outstanding ++
      (List.range' history.made count).map (fun number => ⟨number, destination⟩) }

def answer (history : DirectionsHistory) (index : ℕ) (announces : Bool) : DirectionsHistory :=
  { history with
    outstanding := history.outstanding.eraseIdx index
    announced := history.announced ++
      if announces then (history.outstanding[index]?.map DirectionsRequest.number).toList
      else [] }

def observe (history : DirectionsHistory) (before : LocationManager) (event : Event)
    (after : LocationManager) (outputs : List Output) : DirectionsHistory :=
  match event with
  | .directionsCompleted index _ => history.answer index (!outputs.isEmpty)
  | _ =>
      history.make (after.directions.length - before.directions.length)
        before.destinationCoordinate

end DirectionsHistory

def directionsMachine :=
  machine.observed DirectionsHistory.observe

/-- The event is a completion that posts something, and `request` is the one it answers. -/
def Announces (before : LocationManager × DirectionsHistory) (event : Event)
    (request : DirectionsRequest) : Prop :=
  ∃ index response after outputs, event = .directionsCompleted index response ∧
    before.1.handle event = .ok (after, outputs) ∧ outputs ≠ [] ∧
    before.2.outstanding[index]? = some request

/-- A completion answers a request that was built for the destination in force when it was made,
and posts only instructions of the routes in the answer. -/
def OwnRequest (before : LocationManager × DirectionsHistory) (event : Event) : Prop :=
  ∀ index response after outputs, event = .directionsCompleted index response →
    before.1.handle event = .ok (after, outputs) →
      ∃ request, before.2.outstanding[index]? = some request ∧
        before.1.directions[index]? = some { destination := request.madeFor } ∧
        ∀ message, .post message ∈ outputs →
          ∃ answer ∈ response, ∃ route ∈ answer.routes, ⟨message⟩ ∈ route.steps

def ForDestination (before : LocationManager × DirectionsHistory) (event : Event) : Prop :=
  ∀ request, Announces before event request → request.madeFor = before.1.destinationCoordinate

def NotOlder (before : LocationManager × DirectionsHistory) (event : Event) : Prop :=
  ∀ request, Announces before event request →
    ∀ number ∈ before.2.announced, number ≤ request.number

def newDestination : Event → Option CLLocationCoordinate2D
  | .setDestinationCoordinate newValue => some newValue
  | .visionWillAppear controller => controller.viewWillAppear.2
  | _ => none

/-- The destination does not change while a request is outstanding. -/
def Steady (before : LocationManager × DirectionsHistory) (event : Event) : Prop :=
  ∀ coordinate, newDestination event = some coordinate → before.1.directions ≠ [] →
    coordinate = before.1.destinationCoordinate

/-- Only the oldest outstanding request is answered; any may fail. -/
def InOrder (_before : LocationManager × DirectionsHistory) (event : Event) : Prop :=
  ∀ index response, event = .directionsCompleted index (some response) → index = 0

def Describes (directions : MKDirections) (request : DirectionsRequest) : Prop :=
  directions = { destination := request.madeFor }

/-- The history lists the requests being calculated, numbered in the order made. -/
structure Recorded (directions : List MKDirections) (history : DirectionsHistory) : Prop where
  tracked : Tracks Describes directions history.outstanding
  numbered : Numbered history.made (history.outstanding.map DirectionsRequest.number)

theorem scanSteps_source {remaining : List MKRouteStep} {counter finish : ℕ}
    {audioMessage message : String}
    (scanned : scanSteps remaining counter audioMessage = .ok (finish, message)) :
    (audioMessage.isEmpty = false ∧ message = audioMessage) ∨ ⟨message⟩ ∈ remaining := by
  induction remaining generalizing counter audioMessage with
  | nil =>
      rw [scanSteps.eq_def] at scanned
      split at scanned
      · simp at scanned
      · rename_i notEmpty
        simp only [Except.ok.injEq, Prod.mk.injEq] at scanned
        exact Or.inl ⟨Bool.eq_false_of_not_eq_true notEmpty, scanned.2.symm⟩
  | cons step remaining ih =>
      rw [scanSteps.eq_def] at scanned
      split at scanned
      · right
        rcases ih scanned with ⟨_, isNext⟩ | later
        · subst isNext
          exact List.mem_cons_self
        · exact List.mem_cons_of_mem _ later
      · rename_i notEmpty
        simp only [Except.ok.injEq, Prod.mk.injEq] at scanned
        exact Or.inl ⟨Bool.eq_false_of_not_eq_true notEmpty, scanned.2.symm⟩

/-- Every message posted is the one carried into the loop or an instruction of a route. -/
theorem showRoutes_source {routes : List MKRoute} {counter : ℕ} {audioMessage : String}
    {manager after : LocationManager} {messages : List String}
    (showed : showRoutes routes counter audioMessage manager = .ok (after, messages))
    {message : String} (messageMem : message ∈ messages) :
    (audioMessage.isEmpty = false ∧ message = audioMessage) ∨
      ∃ route ∈ routes, ⟨message⟩ ∈ route.steps := by
  induction routes generalizing counter audioMessage manager messages with
  | nil =>
      simp only [showRoutes, Except.ok.injEq, Prod.mk.injEq] at showed
      rw [← showed.2] at messageMem
      simp at messageMem
  | cons route routes ih =>
      simp only [showRoutes] at showed
      split at showed
      · split at showed
        · simp at showed
        · rename_i finish spoken scanned
          split at showed
          · simp at showed
          · rename_i reached later rest
            simp only [Except.ok.injEq, Prod.mk.injEq] at showed
            rcases showed with ⟨rfl, rfl⟩
            have carried : message = spoken ∨ ∃ route ∈ routes, ⟨message⟩ ∈ route.steps := by
              rcases List.mem_cons.mp messageMem with isSpoken | laterMem
              · exact Or.inl isSpoken
              · rcases ih rest laterMem with ⟨_, isSpoken⟩ | ofRoute
                · exact Or.inl isSpoken
                · exact Or.inr ofRoute
            rcases carried with rfl | ⟨later, laterMem, isStep⟩
            · rcases scanSteps_source scanned with carriedIn | isStep
              · exact Or.inl carriedIn
              · exact Or.inr ⟨route, List.mem_cons_self, List.mem_of_mem_drop isStep⟩
            · exact Or.inr ⟨later, List.mem_cons_of_mem _ laterMem, isStep⟩
      · rcases ih showed messageMem with carriedIn | ⟨later, laterMem, isStep⟩
        · exact Or.inl carriedIn
        · exact Or.inr ⟨later, List.mem_cons_of_mem _ laterMem, isStep⟩

theorem showRoute_source {manager after : LocationManager} {response : DirectionsResponse}
    {messages : List String} (showed : manager.showRoute response = .ok (after, messages))
    {message : String} (messageMem : message ∈ messages) :
    ∃ route ∈ response.routes, ⟨message⟩ ∈ route.steps := by
  rcases showRoutes_source showed messageMem with ⟨notEmpty, _⟩ | ofRoute
  · simp at notEmpty
  · exact ofRoute

theorem coordinates_handle {before after : LocationManager} {event : Event}
    {outputs : List Output} (handled : before.handle event = .ok (after, outputs)) :
    after.coordinates = (newDestination event).getD before.coordinates := by
  cases reaction_of_handle handled with
  | didUpdateLocations updated =>
      rcases didUpdateLocations_frame updated with ⟨location, _, count, _, rfl⟩
      rfl
  | visionWillAppear controller =>
      simp only [visionWillAppear, newDestination]
      cases controller.viewWillAppear.2 with
      | none => rfl
      | some coordinate => rfl
  | showRoute showed =>
      rcases showRoute_frame showed with ⟨moveCount, nextMove, frame⟩
      rw [frame]
      rfl
  | directionsAnswered showed =>
      rcases showRoute_frame showed with ⟨moveCount, nextMove, frame⟩
      rw [frame]
      rfl
  | geocoded answered =>
      rcases geocoded_frame answered with ⟨addressString, frame⟩
      rw [frame]
      rfl
  | didFailWithError => rfl
  | setDestinationCoordinate newValue => rfl
  | takeMeThere => rfl
  | initRoute => rfl
  | directionsFailed index => rfl
  | getUserLocatoin => rfl

/-- A step ends one request, or makes some for the destination in force. -/
inductive Recording (before : LocationManager) (history : DirectionsHistory) :
    Event → List MKDirections → DirectionsHistory → Prop where
  | answered (index : ℕ) {response : Option DirectionsResponse} {announces : Bool}
      (isAnswer : announces = true → response ≠ none) :
      Recording before history (.directionsCompleted index response)
        (before.directions.eraseIdx index) (history.answer index announces)
  | made {event : Event} {count : ℕ} (settled : newDestination event = none ∨ count = 0) :
      Recording before history event
        (before.directions ++ List.replicate count { destination := before.coordinates })
        (history.make count before.coordinates)

theorem recording_of_made {before after : LocationManager} {history : DirectionsHistory}
    {event : Event} {outputs : List Output} {count : ℕ}
    (settled : newDestination event = none ∨ count = 0)
    (directions : after.directions =
      before.directions ++ List.replicate count { destination := before.coordinates })
    (observed : history.observe before event after outputs =
      history.make (after.directions.length - before.directions.length)
        before.destinationCoordinate) :
    Recording before history event after.directions
      (history.observe before event after outputs) := by
  have counted : after.directions.length - before.directions.length = count := by
    rw [directions, List.length_append, List.length_replicate]
    omega
  rw [observed, counted, directions]
  exact .made settled

theorem recording_of_unchanged {before after : LocationManager} {history : DirectionsHistory}
    {event : Event} {outputs : List Output} (unchanged : after.directions = before.directions)
    (observed : history.observe before event after outputs =
      history.make (after.directions.length - before.directions.length)
        before.destinationCoordinate) :
    Recording before history event after.directions
      (history.observe before event after outputs) := by
  have directions : after.directions =
      before.directions ++ List.replicate 0 { destination := before.coordinates } :=
    unchanged.trans (List.append_nil _).symm
  exact recording_of_made (Or.inr rfl) directions observed

theorem recording_of_handle {before after : LocationManager} {event : Event}
    {outputs : List Output} (handled : before.handle event = .ok (after, outputs))
    (history : DirectionsHistory) :
    Recording before history event after.directions
      (history.observe before event after outputs) := by
  have madeOne : before.takeMeThere.directions =
      before.directions ++ List.replicate 1 { destination := before.coordinates } := rfl
  cases reaction_of_handle handled with
  | didUpdateLocations updated =>
      rcases didUpdateLocations_frame updated with ⟨location, _, count, _, rfl⟩
      exact recording_of_made (Or.inl rfl) rfl rfl
  | visionWillAppear controller =>
      rcases visionWillAppear_frame before controller with ⟨_, _, frame⟩
      rw [frame]
      exact recording_of_unchanged rfl rfl
  | showRoute showed =>
      rcases showRoute_frame showed with ⟨moveCount, nextMove, rfl⟩
      exact recording_of_unchanged rfl rfl
  | directionsAnswered showed =>
      rcases showRoute_frame showed with ⟨moveCount, nextMove, rfl⟩
      apply Recording.answered
      simp
  | directionsFailed index =>
      apply Recording.answered
      simp
  | geocoded answered =>
      rcases geocoded_frame answered with ⟨addressString, rfl⟩
      exact recording_of_unchanged rfl rfl
  | takeMeThere => exact recording_of_made (Or.inl rfl) madeOne rfl
  | initRoute => exact recording_of_made (Or.inl rfl) madeOne rfl
  | didFailWithError => exact recording_of_unchanged rfl rfl
  | setDestinationCoordinate newValue => exact recording_of_unchanged rfl rfl
  | getUserLocatoin => exact recording_of_unchanged rfl rfl

theorem number_make (history : DirectionsHistory) (count : ℕ)
    (destination : CLLocationCoordinate2D) :
    (history.make count destination).outstanding.map DirectionsRequest.number =
      history.outstanding.map DirectionsRequest.number ++ List.range' history.made count := by
  simp [DirectionsHistory.make, Function.comp_def]

theorem number_answer (history : DirectionsHistory) (index : ℕ) (announces : Bool) :
    (history.answer index announces).outstanding.map DirectionsRequest.number =
      (history.outstanding.map DirectionsRequest.number).eraseIdx index :=
  (List.eraseIdx_map _ _ _).symm

theorem describes_range (destination : CLLocationCoordinate2D) (numbers : List ℕ) :
    Tracks Describes (List.replicate numbers.length { destination := destination })
      (numbers.map (fun number => ⟨number, destination⟩)) := by
  induction numbers with
  | nil => exact .nil
  | cons number numbers ih => exact List.Forall₂.cons rfl ih

namespace Recorded

variable {directions : List MKDirections} {history : DirectionsHistory}

theorem make (recorded : Recorded directions history) (count : ℕ)
    (destination : CLLocationCoordinate2D) :
    Recorded (directions ++ List.replicate count { destination := destination })
      (history.make count destination) := by
  have fresh := describes_range destination (List.range' history.made count)
  rw [List.length_range'] at fresh
  refine ⟨recorded.tracked.start fresh, ?_⟩
  rw [number_make]
  exact recorded.numbered.start count

theorem answer (recorded : Recorded directions history) (index : ℕ) (announces : Bool) :
    Recorded (directions.eraseIdx index) (history.answer index announces) := by
  refine ⟨recorded.tracked.answer index, ?_⟩
  rw [number_answer]
  exact recorded.numbered.answer index

end Recorded

theorem recorded_recording {before : LocationManager} {history newHistory : DirectionsHistory}
    {event : Event} {directions : List MKDirections}
    (recording : Recording before history event directions newHistory)
    (recorded : Recorded before.directions history) : Recorded directions newHistory := by
  cases recording with
  | answered index _ => exact recorded.answer index _
  | made _ => exact recorded.make _ _

theorem recorded_preserved :
    directionsMachine.Preserved (fun state => Recorded state.1.directions state.2) := by
  apply observed_preserved
  intro before history event after outputs recorded step
  exact recorded_recording (recording_of_handle step.2 history) recorded

theorem recorded_initial : Recorded [] {} :=
  ⟨.nil, .nil⟩

theorem ownRequest_of_recorded {before : LocationManager × DirectionsHistory} {event : Event}
    (recorded : Recorded before.1.directions before.2)
    (isEnabled : directionsMachine.enabled before event = true) : OwnRequest before event := by
  rintro index response after outputs rfl handled
  have bound : index < before.1.directions.length := of_decide_eq_true isEnabled
  have asked := List.getElem?_eq_getElem bound
  rcases recorded.tracked.entry asked with ⟨request, isOutstanding, described⟩
  rw [described] at asked
  refine ⟨request, isOutstanding, asked, ?_⟩
  intro message announced
  cases reaction_of_handle handled with
  | directionsFailed index => simp at announced
  | @directionsAnswered _ answer _ messages showed =>
      rcases List.mem_map.mp announced with ⟨posted, postedMem, same⟩
      rcases Output.post.inj same with rfl
      exact ⟨answer, rfl, showRoute_source showed postedMem⟩

/-- Every outstanding request is for the destination in force. -/
def AllCurrent (state : LocationManager × DirectionsHistory) : Prop :=
  Recorded state.1.directions state.2 ∧
    ∀ request ∈ state.2.outstanding, request.madeFor = state.1.coordinates

theorem current_recording {before : LocationManager} {history newHistory : DirectionsHistory}
    {event : Event} {directions : List MKDirections} {coordinate : CLLocationCoordinate2D}
    (recording : Recording before history event directions newHistory)
    (remaining : ∀ request ∈ history.outstanding, request.madeFor = coordinate)
    (rests : newDestination event = none → before.coordinates = coordinate) :
    ∀ request ∈ newHistory.outstanding, request.madeFor = coordinate := by
  intro request requestMem
  cases recording with
  | answered index _ => exact remaining request (List.mem_of_mem_eraseIdx requestMem)
  | @made _ count settled =>
      rcases List.mem_append.mp requestMem with older | fresh
      · exact remaining request older
      · rcases List.mem_map.mp fresh with ⟨number, numberMem, rfl⟩
        rcases settled with unchanged | rfl
        · exact rests unchanged
        · simp at numberMem

theorem allCurrent_kept {before after : LocationManager × DirectionsHistory} {event : Event}
    {outputs : List Output} (current : AllCurrent before) (steady : Steady before event)
    (step : directionsMachine.Step before event after outputs) : AllCurrent after := by
  rcases current with ⟨recorded, current⟩
  rcases observed_step_iff.mp step with ⟨machineStep, observed⟩
  have coordinates := coordinates_handle machineStep.2
  refine ⟨recorded_preserved before event after outputs recorded step, ?_⟩
  rw [observed]
  apply current_recording (recording_of_handle machineStep.2 before.2)
  · intro request requestMem
    rw [current request requestMem, coordinates]
    cases changed : newDestination event with
    | none => rfl
    | some coordinate =>
        have notEmpty : before.1.directions ≠ [] := by
          rw [ne_eq, recorded.tracked.nil_iff]
          exact List.ne_nil_of_mem requestMem
        exact (steady coordinate changed notEmpty).symm
  · intro unchanged
    rw [coordinates, unchanged]
    rfl

theorem forDestination_of_allCurrent {before : LocationManager × DirectionsHistory} {event : Event}
    (current : AllCurrent before) : ForDestination before event := by
  rintro request ⟨index, _, _, _, _, _, _, answered⟩
  exact current.2 request (List.mem_of_getElem? answered)

/-- Every outstanding request is newer than the ones announced. -/
def AnnouncedOlder (state : LocationManager × DirectionsHistory) : Prop :=
  Recorded state.1.directions state.2 ∧
    AllNewer state.2.announced state.2.made
      (state.2.outstanding.map DirectionsRequest.number)

theorem newer_recording {before : LocationManager} {history newHistory : DirectionsHistory}
    {event : Event} {directions : List MKDirections}
    (recording : Recording before history event directions newHistory)
    (recorded : Recorded before.directions history)
    (newer : AllNewer history.announced history.made
      (history.outstanding.map DirectionsRequest.number))
    (inOrder : ∀ index response, event = .directionsCompleted index (some response) → index = 0) :
    AllNewer newHistory.announced newHistory.made
      (newHistory.outstanding.map DirectionsRequest.number) := by
  cases recording with
  | @answered index response announces isAnswer =>
      rw [number_answer]
      cases announces with
      | false =>
          simp only [DirectionsHistory.answer, Bool.false_eq_true, if_false, List.append_nil]
          exact newer.fail index
      | true =>
          rcases Option.ne_none_iff_exists'.mp (isAnswer rfl) with ⟨answer, rfl⟩
          have isOldest := inOrder index answer rfl
          subst isOldest
          simp only [DirectionsHistory.answer, if_true, ← List.getElem?_map]
          exact newer.answerOldest recorded.numbered
  | @made _ count _ =>
      rw [number_make]
      exact newer.start count

theorem announcedOlder_kept {before after : LocationManager × DirectionsHistory} {event : Event}
    {outputs : List Output} (older : AnnouncedOlder before) (inOrder : InOrder before event)
    (step : directionsMachine.Step before event after outputs) : AnnouncedOlder after := by
  rcases older with ⟨recorded, newer⟩
  rcases observed_step_iff.mp step with ⟨machineStep, observed⟩
  refine ⟨recorded_preserved before event after outputs recorded step, ?_⟩
  rw [observed]
  exact newer_recording (recording_of_handle machineStep.2 before.2) recorded newer inOrder

theorem notOlder_of_announcedOlder {before : LocationManager × DirectionsHistory} {event : Event}
    (older : AnnouncedOlder before) : NotOlder before event := by
  rintro request ⟨index, _, _, _, _, _, _, answered⟩ number announced
  have requestMem := List.mem_map_of_mem (f := DirectionsRequest.number)
    (List.mem_of_getElem? answered)
  exact ((older.2 number announced).2 request.number requestMem).le

/-- Every instruction stems from the answer to its own request, made for the destination then in
force. The request is for the destination in force when the instruction is posted if the
destination rests while requests are outstanding, and not older than one announced before if they
are answered in the order made. -/
theorem announcements_ofRequests (events : List Event) :
    directionsMachine.Always OwnRequest ({}, {}) events ∧
      (directionsMachine.Always Steady ({}, {}) events →
        directionsMachine.Always ForDestination ({}, {}) events) ∧
      (directionsMachine.Always InOrder ({}, {}) events →
        directionsMachine.Always NotOlder ({}, {}) events) := by
  refine ⟨?_, ?_, ?_⟩
  · intro earlier event later before _ run isEnabled
    exact ownRequest_of_recorded (run.invariant recorded_preserved recorded_initial) isEnabled
  · apply Always.of_guarded
    · intro before event after outputs
      exact allCurrent_kept
    · intro before event current _ _
      exact forDestination_of_allCurrent current
    · exact ⟨recorded_initial, by simp⟩
  · apply Always.of_guarded
    · intro before event after outputs
      exact announcedOlder_kept
    · intro before event older _ _
      exact notOlder_of_announcedOlder older
    · exact ⟨recorded_initial, by simp [AllNewer]⟩

def leftTurn : DirectionsResponse :=
  ⟨[⟨[⟨"Turn left"⟩]⟩]⟩

def rightTurn : DirectionsResponse :=
  ⟨[⟨[⟨"Turn right"⟩, ⟨"Arrive"⟩]⟩]⟩

def twoAnswers : List Event :=
  [.takeMeThere, .takeMeThere, .directionsCompleted 0 (some leftTurn),
    .directionsCompleted 0 (some rightTurn)]

theorem twoAnswers_current :
    (∃ finish, machine.Run {} twoAnswers finish ∧ finish.nextMove = "Turn right") ∧
      directionsMachine.Always ForDestination ({}, {}) twoAnswers ∧
      directionsMachine.Always NotOlder ({}, {}) twoAnswers := by
  refine ⟨⟨_, .of_exec rfl, rfl⟩, (announcements_ofRequests twoAnswers).2.1 ?_,
    (announcements_ofRequests twoAnswers).2.2 ?_⟩
  · refine .cons rfl ?_ (.cons rfl ?_ (.cons rfl ?_ (.cons rfl ?_ .nil))) <;>
      simp [Steady, newDestination]
  · refine .cons rfl ?_ (.cons rfl ?_ (.cons rfl ?_ (.cons rfl ?_ .nil))) <;>
      simp [InOrder]

def changedDestination : List Event :=
  [.takeMeThere, .setDestinationCoordinate { latitude := ⟨1⟩ },
    .directionsCompleted 0 (some leftTurn)]

def overtaken : List Event :=
  [.takeMeThere, .takeMeThere, .directionsCompleted 1 (some leftTurn),
    .directionsCompleted 0 (some rightTurn)]

/-- An answer for the former destination is announced, and so is one that was overtaken. -/
theorem staleAnswers_announced :
    ((∃ finish, machine.Run {} changedDestination finish ∧ finish.nextMove = "Turn left") ∧
      ¬directionsMachine.Always ForDestination ({}, {}) changedDestination) ∧
      ((∃ finish, machine.Run {} overtaken finish ∧ finish.nextMove = "Turn right") ∧
        ¬directionsMachine.Always NotOlder ({}, {}) overtaken) := by
  refine ⟨⟨⟨_, .of_exec rfl, rfl⟩, ?_⟩, ⟨_, .of_exec rfl, rfl⟩, ?_⟩
  · apply Always.not_of_exec (changedDestination.take 2) [] rfl rfl
    intro law
    have same := law ⟨0, {}⟩ ⟨0, some leftTurn, _, _, rfl, rfl, by decide, rfl⟩
    exact absurd same (by decide)
  · apply Always.not_of_exec (overtaken.take 3) [] rfl rfl
    intro law
    have notOlder := law ⟨0, {}⟩ ⟨0, some rightTurn, _, _, rfl, rfl, by decide, rfl⟩ 1 (by decide)
    exact absurd notOlder (by decide)

end VisionApp.LocationManager
