import VisionApp.Realm.Persistence

/-!
# What the store holds

After any calls of the manager no transaction is open, and the store holds what it
held before them and every object that was saved, once, in the order of the first
saves. The app saves every location as an object of its own, so to it the store is
the list of `RealmManager`.
-/

namespace VisionApp.RealmDelegate

open EventMachine Transaction

section Objects

variable {Row : Type}

/-- The objects that were saved, in the order in which each was saved first. -/
def firstSaves (saves : List ℕ) : List ℕ :=
  saves.foldl (fun kept reference => if reference ∈ kept then kept else kept ++ [reference]) []

theorem firstSaves_append (saves : List ℕ) (reference : ℕ) :
    firstSaves (saves ++ [reference]) =
      if reference ∈ firstSaves saves then firstSaves saves
      else firstSaves saves ++ [reference] := by
  rw [firstSaves, List.foldl_append]
  rfl

theorem mem_firstSaves {saves : List ℕ} {reference : ℕ} :
    reference ∈ firstSaves saves ↔ reference ∈ saves := by
  induction saves using List.reverseRecOn with
  | nil => simp [firstSaves]
  | append_singleton saves last ih =>
      rw [firstSaves_append, List.mem_append, List.mem_singleton]
      by_cases known : last ∈ firstSaves saves
      · rw [if_pos known, ih]
        constructor
        · exact Or.inl
        · rintro (old | rfl)
          · exact old
          · exact ih.mp known
      · rw [if_neg known, List.mem_append, List.mem_singleton, ih]

theorem firstSaves_isPrefix (saves later : List ℕ) :
    firstSaves saves <+: firstSaves (saves ++ later) := by
  induction later using List.reverseRecOn with
  | nil => simp
  | append_singleton later last ih =>
      rw [← List.append_assoc, firstSaves_append]
      split
      · exact ih
      · exact ih.trans (List.prefix_append _ _)

/-- The contents of the objects that were saved. -/
def savedRows (created : List Row) (saves : List ℕ) : List Row :=
  (firstSaves saves).filterMap (fun reference => created[reference]?)

/-- A table holds what it held and every saved object once, and the objects know their rows. -/
structure Kept (base created : List Row) (saves : List ℕ) (table : List Row)
    (objects : List (RealmObject Row)) : Prop where
  rows : table = base ++ savedRows created saves
  length : objects.length = created.length
  own : ∀ reference value, reference ∉ saves → created[reference]? = some value →
    objects[reference]? = some (.unmanaged value)
  managed : ∀ reference ∈ saves, ∃ row, objects[reference]? = some (.managed row) ∧
    table[row]? = created[reference]?

variable {base created table : List Row} {saves : List ℕ} {objects : List (RealmObject Row)}

namespace Kept

theorem initial (base : List Row) : Kept base [] [] base [] where
  rows := by simp [savedRows]
  length := rfl
  own := by simp
  managed := by simp

theorem lt_of_saved (kept : Kept base created saves table objects) {reference : ℕ}
    (isSaved : reference ∈ saves) : reference < created.length := by
  rcases kept.managed reference isSaved with ⟨row, present, _⟩
  rw [← kept.length]
  exact (List.getElem?_eq_some_iff.mp present).1

theorem savedRows_isPrefix (kept : Kept base created saves table objects) (createdLater : List Row)
    (savedLater : List ℕ) :
    savedRows created saves <+: savedRows (created ++ createdLater) (saves ++ savedLater) := by
  have same : savedRows created saves = savedRows (created ++ createdLater) saves := by
    apply List.filterMap_congr
    intro reference isSaved
    rw [List.getElem?_append_left (kept.lt_of_saved (mem_firstSaves.mp isSaved))]
  rw [same]
  exact (firstSaves_isPrefix saves savedLater).filterMap _

theorem savedRows_eq_nil_iff (kept : Kept base created saves table objects) :
    savedRows created saves = [] ↔ saves = [] := by
  constructor
  · intro nothing
    apply List.eq_nil_iff_forall_not_mem.mpr
    intro reference isSaved
    have absent := List.filterMap_eq_nil_iff.mp nothing reference (mem_firstSaves.mpr isSaved)
    rw [List.getElem?_eq_none_iff] at absent
    have present := kept.lt_of_saved isSaved
    omega
  · rintro rfl
    rfl

theorem valid (kept : Kept base created saves table objects) {reference : ℕ}
    {object : RealmObject Row} (present : objects[reference]? = some object) :
    object ≠ .invalidated := by
  rintro rfl
  by_cases isSaved : reference ∈ saves
  · rcases kept.managed reference isSaved with ⟨row, isManaged, _⟩
    simp [present] at isManaged
  · have bound := (List.getElem?_eq_some_iff.mp present).1
    have content := List.getElem?_eq_getElem (by rw [← kept.length]; exact bound)
    have own := kept.own reference _ isSaved content
    simp [present] at own

theorem new (kept : Kept base created saves table objects) (value : Row) :
    Kept base (created ++ [value]) saves table (objects ++ [.unmanaged value]) where
  rows := by
    rw [kept.rows, savedRows, savedRows]
    congr 1
    apply List.filterMap_congr
    intro reference isSaved
    rw [List.getElem?_append_left (kept.lt_of_saved (mem_firstSaves.mp isSaved))]
  length := by simp [kept.length]
  own := by
    intro reference content unsaved isContent
    rcases Nat.lt_or_ge reference created.length with old | new
    · rw [List.getElem?_append_left old] at isContent
      rw [List.getElem?_append_left (by rw [kept.length]; exact old)]
      exact kept.own reference content unsaved isContent
    · rw [List.getElem?_append_right new, List.getElem?_singleton] at isContent
      rw [List.getElem?_append_right (by rw [kept.length]; exact new), kept.length,
        List.getElem?_singleton]
      split at isContent
      · rename_i isNew
        rcases Option.some.inj isContent with rfl
        rw [if_pos isNew]
      · simp at isContent
  managed := by
    intro reference isSaved
    rcases kept.managed reference isSaved with ⟨row, present, content⟩
    have old := kept.lt_of_saved isSaved
    refine ⟨row, ?_, ?_⟩
    · rw [List.getElem?_append_left (by rw [kept.length]; exact old)]
      exact present
    · rw [content, List.getElem?_append_left old]

theorem save (kept : Kept base created saves table objects) {reference : ℕ} {value : Row}
    (present : objects[reference]? = some (.unmanaged value)) :
    Kept base created (saves ++ [reference]) (table ++ [value])
      (objects.set reference (.managed table.length)) := by
  have unsaved : reference ∉ saves := by
    intro isSaved
    rcases kept.managed reference isSaved with ⟨row, isManaged, _⟩
    rw [present] at isManaged
    simp at isManaged
  have bound := (List.getElem?_eq_some_iff.mp present).1
  have content : created[reference]? = some value := by
    have created := List.getElem?_eq_getElem (by rw [← kept.length]; exact bound)
    have own := kept.own reference _ unsaved created
    rw [present, Option.some.injEq, RealmObject.unmanaged.injEq] at own
    rw [created, own]
  constructor
  · rw [kept.rows, savedRows, savedRows, firstSaves_append,
      if_neg (fun known => unsaved (mem_firstSaves.mp known)), List.filterMap_append,
      List.append_assoc]
    simp [content]
  · rw [List.length_set]
    exact kept.length
  · intro other otherValue unsavedOther isContent
    simp only [List.mem_append, List.mem_singleton, not_or] at unsavedOther
    rw [List.getElem?_set_ne (Ne.symm unsavedOther.2)]
    exact kept.own other otherValue unsavedOther.1 isContent
  · intro other isSaved
    by_cases same : other = reference
    · subst same
      refine ⟨table.length, List.getElem?_set_self bound, ?_⟩
      rw [content]
      simp
    · have old : other ∈ saves := by simpa [same] using isSaved
      rcases kept.managed other old with ⟨row, isManaged, isRow⟩
      refine ⟨row, ?_, ?_⟩
      · rw [List.getElem?_set_ne (Ne.symm same)]
        exact isManaged
      · rw [← isRow]
        apply List.getElem?_append_left
        have inTable : (created[other]?).isSome = true := by
          simp [kept.lt_of_saved old]
        rw [← isRow, Option.isSome_iff_exists] at inTable
        rcases inTable with ⟨content, isContent⟩
        exact (List.getElem?_eq_some_iff.mp isContent).1

theorem saveAgain (kept : Kept base created saves table objects) {reference row : ℕ}
    (present : objects[reference]? = some (.managed row)) :
    Kept base created (saves ++ [reference]) table (objects.set reference (.managed row)) := by
  have bound := (List.getElem?_eq_some_iff.mp present).1
  have isSaved : reference ∈ saves := by
    by_contra unsaved
    have created := List.getElem?_eq_getElem (by rw [← kept.length]; exact bound)
    have own := kept.own reference _ unsaved created
    rw [present] at own
    simp at own
  have unchanged : objects.set reference (.managed row) = objects := by
    apply List.ext_getElem?
    intro other
    by_cases same : other = reference
    · subst same
      rw [List.getElem?_set_self bound, present]
    · exact List.getElem?_set_ne (Ne.symm same)
  rw [unchanged]
  constructor
  · rw [kept.rows, savedRows, savedRows, firstSaves_append, if_pos (mem_firstSaves.mpr isSaved)]
  · exact kept.length
  · intro other value unsaved
    exact kept.own other value (fun old => unsaved (by simp [old]))
  · intro other isSavedNow
    apply kept.managed
    rcases List.mem_append.mp isSavedNow with old | new
    · exact old
    · rw [List.mem_singleton.mp new]
      exact isSaved

end Kept

end Objects

section Calls

/-- A save that ends well keeps the table, closes its transaction and touches no other table. -/
theorem kept_save {Row : Type} {schema : ObjectSchema Row} (noKey : schema.primaryKey = none)
    {base created : List Row} {saves : List ℕ} {objects : List (RealmObject Row)}
    {object reached : RealmObject Row} {reference : ℕ} {failure : Option String}
    {tables : RealmTables} {after : Store RealmTables}
    (kept : Kept base created saves (schema.rows tables) objects)
    (present : objects[reference]? = some object)
    (saved : forceTry (write (add schema object) failure { committed := tables }) =
      .ok (reached, after)) :
    after.writing = none ∧
      Kept base created (saves ++ [reference]) (schema.rows after.committed)
        (objects.set reference reached) ∧
      (after.committed = tables ∨ ∃ value, after.committed = schema.addRow tables value) := by
  have valid : object ≠ .invalidated := by
    rintro rfl
    simp [write, beginWrite, add, endWrite, forceTry] at saved
  cases failure with
  | some reason =>
      rcases write_add_failing schema noKey valid tables reason with ⟨left, failed⟩
      simp [failed, forceTry] at saved
  | none =>
      cases object with
      | invalidated => exact absurd rfl valid
      | unmanaged value =>
          rw [write_add_unmanaged noKey] at saved
          simp only [forceTry, Except.ok.injEq, Prod.mk.injEq] at saved
          rcases saved with ⟨rfl, rfl⟩
          refine ⟨rfl, ?_, Or.inr ⟨value, rfl⟩⟩
          rw [schema.rows_addRow]
          exact kept.save present
      | managed row =>
          rw [write_add_managed] at saved
          simp only [forceTry, Except.ok.injEq, Prod.mk.injEq] at saved
          rcases saved with ⟨rfl, rfl⟩
          exact ⟨rfl, kept.saveAgain present, Or.inl rfl⟩

def createdLocation : Event → Option LocationModel
  | .newLocation value => some value
  | _ => none

def savedLocation : Event → Option ℕ
  | .saveLocation reference _ => some reference
  | _ => none

def createdUserDetail : Event → Option UserDetailModel
  | .newUserDetail value => some value
  | _ => none

def savedUserDetail : Event → Option ℕ
  | .saveUserDetail reference _ => some reference
  | _ => none

/-- What a run from the stored tables has made of them and of its own objects. -/
structure Persisted (tables : RealmTables) (events : List Event) (persistence : Persistence) :
    Prop where
  atRest : persistence.realmDelegate.writing = none
  locations : Kept tables.locations (events.filterMap createdLocation)
    (events.filterMap savedLocation) persistence.realmDelegate.committed.locations
    persistence.locations
  userDetails : Kept tables.userDetails (events.filterMap createdUserDetail)
    (events.filterMap savedUserDetail) persistence.realmDelegate.committed.userDetails
    persistence.userDetails

theorem store_eq {store : Store RealmTables} (atRest : store.writing = none) :
    store = { committed := store.committed } := by
  cases store
  simp_all

variable {tables : RealmTables} {events : List Event} {before after : Persistence}
  {outputs : List Output}

theorem Persisted.snoc {event : Event} (atRest : after.realmDelegate.writing = none)
    (locations : Kept tables.locations
      (events.filterMap createdLocation ++ (createdLocation event).toList)
      (events.filterMap savedLocation ++ (savedLocation event).toList)
      after.realmDelegate.committed.locations after.locations)
    (userDetails : Kept tables.userDetails
      (events.filterMap createdUserDetail ++ (createdUserDetail event).toList)
      (events.filterMap savedUserDetail ++ (savedUserDetail event).toList)
      after.realmDelegate.committed.userDetails after.userDetails) :
    Persisted tables (events ++ [event]) after := by
  have snoc {Value : Type} (read : Event → Option Value) : (events ++ [event]).filterMap read =
      events.filterMap read ++ (read event).toList := by
    rw [List.filterMap_append]
    cases isRead : read event <;> simp [isRead]
  refine ⟨atRest, ?_, ?_⟩
  · rw [snoc, snoc]
    exact locations
  · rw [snoc, snoc]
    exact userDetails

theorem persisted_saveLocation (persisted : Persisted tables events before) {reference : ℕ}
    {failure : Option String}
    (step : machine.Step before (.saveLocation reference failure) after outputs) :
    Persisted tables (events ++ [.saveLocation reference failure]) after := by
  rcases persisted with ⟨atRest, locations, userDetails⟩
  rcases step with ⟨isEnabled, handled⟩
  simp only [machine, handle] at handled
  split at handled
  · rename_i absent
    simp only [machine, enabled, decide_eq_true_eq] at isEnabled
    rw [List.getElem?_eq_none_iff] at absent
    omega
  · rename_i object present
    split at handled
    · rename_i reached realmDelegate saved
      simp only [Except.ok.injEq, Prod.mk.injEq] at handled
      rw [store_eq atRest] at saved
      rcases kept_save rfl locations present saved with ⟨atRestAfter, kept, changed⟩
      have untouched : realmDelegate.committed.userDetails =
          before.realmDelegate.committed.userDetails := by
        rcases changed with same | ⟨value, written⟩
        · rw [same]
        · rw [written]
          rfl
      rw [← handled.1]
      apply Persisted.snoc atRestAfter
      · simpa [createdLocation, savedLocation, locationSchema] using kept
      · simpa [createdUserDetail, savedUserDetail, untouched] using userDetails
    · simp at handled

theorem persisted_saveUserDetail (persisted : Persisted tables events before) {reference : ℕ}
    {failure : Option String}
    (step : machine.Step before (.saveUserDetail reference failure) after outputs) :
    Persisted tables (events ++ [.saveUserDetail reference failure]) after := by
  rcases persisted with ⟨atRest, locations, userDetails⟩
  rcases step with ⟨isEnabled, handled⟩
  simp only [machine, handle] at handled
  split at handled
  · rename_i absent
    simp only [machine, enabled, decide_eq_true_eq] at isEnabled
    rw [List.getElem?_eq_none_iff] at absent
    omega
  · rename_i object present
    split at handled
    · rename_i reached realmDelegate saved
      simp only [Except.ok.injEq, Prod.mk.injEq] at handled
      rw [store_eq atRest] at saved
      rcases kept_save rfl userDetails present saved with ⟨atRestAfter, kept, changed⟩
      have untouched : realmDelegate.committed.locations =
          before.realmDelegate.committed.locations := by
        rcases changed with same | ⟨value, written⟩
        · rw [same]
        · rw [written]
          rfl
      rw [← handled.1]
      apply Persisted.snoc atRestAfter
      · simpa [createdLocation, savedLocation, untouched] using locations
      · simpa [createdUserDetail, savedUserDetail, userDetailSchema] using kept
    · simp at handled

/-- A call that only reads leaves everything as it is. -/
theorem read_of_step {event : Event} (step : machine.Step before event after outputs)
    (noLocation : createdLocation event = none ∧ savedLocation event = none)
    (noUserDetail : createdUserDetail event = none ∧ savedUserDetail event = none) :
    after = before := by
  have handled := step.2
  cases event with
  | newLocation value => simp [createdLocation] at noLocation
  | saveLocation reference failure => simp [savedLocation] at noLocation
  | newUserDetail value => simp [createdUserDetail] at noUserDetail
  | saveUserDetail reference failure => simp [savedUserDetail] at noUserDetail
  | getUserDetail =>
      simp only [machine, handle] at handled
      split at handled <;> simp_all
  | getLocationModel id =>
      simp only [machine, handle] at handled
      split at handled <;> simp_all
  | getLocationList =>
      simp only [machine, handle, Except.ok.injEq, Prod.mk.injEq] at handled
      exact handled.1.symm
  | isLocationExists locationName =>
      simp only [machine, handle, Except.ok.injEq, Prod.mk.injEq] at handled
      exact handled.1.symm

theorem persisted_of_step (persisted : Persisted tables events before) {event : Event}
    (step : machine.Step before event after outputs) :
    Persisted tables (events ++ [event]) after := by
  have reads (noLocation : createdLocation event = none ∧ savedLocation event = none)
      (noUserDetail : createdUserDetail event = none ∧ savedUserDetail event = none) :
      Persisted tables (events ++ [event]) after := by
    rw [read_of_step step noLocation noUserDetail]
    apply Persisted.snoc persisted.atRest
    · simpa [noLocation] using persisted.locations
    · simpa [noUserDetail] using persisted.userDetails
  cases event with
  | newLocation value =>
      have handled := step.2
      simp only [machine, handle, Except.ok.injEq, Prod.mk.injEq] at handled
      rw [← handled.1]
      refine Persisted.snoc persisted.atRest ?_ ?_
      · simpa [createdLocation, savedLocation] using persisted.locations.new value
      · simpa [createdUserDetail, savedUserDetail] using persisted.userDetails
  | newUserDetail value =>
      have handled := step.2
      simp only [machine, handle, Except.ok.injEq, Prod.mk.injEq] at handled
      rw [← handled.1]
      refine Persisted.snoc persisted.atRest ?_ ?_
      · simpa [createdLocation, savedLocation] using persisted.locations
      · simpa [createdUserDetail, savedUserDetail] using persisted.userDetails.new value
  | saveLocation reference failure => exact persisted_saveLocation persisted step
  | saveUserDetail reference failure => exact persisted_saveUserDetail persisted step
  | getUserDetail => exact reads ⟨rfl, rfl⟩ ⟨rfl, rfl⟩
  | getLocationModel id => exact reads ⟨rfl, rfl⟩ ⟨rfl, rfl⟩
  | getLocationList => exact reads ⟨rfl, rfl⟩ ⟨rfl, rfl⟩
  | isLocationExists locationName => exact reads ⟨rfl, rfl⟩ ⟨rfl, rfl⟩

theorem persisted_of_run (run : machine.Run (start tables) events after) :
    Persisted tables events after := by
  induction run with
  | refl => exact ⟨rfl, Kept.initial _, Kept.initial _⟩
  | snoc _ step ih => exact persisted_of_step ih step

end Calls

section Store

variable {tables : RealmTables} {events : List Event} {finish : Persistence}

/-- The contents of the location objects that a run saved, in the order of their first saves. -/
def savedLocations (events : List Event) : List LocationModel :=
  savedRows (events.filterMap createdLocation) (events.filterMap savedLocation)

/-- The locations as the list that `RealmManager` keeps. -/
def Persistence.realm (persistence : Persistence) : RealmManager where
  locations := getLocationList persistence.realmDelegate

theorem foldl_saveLocation (realm : RealmManager) (saved : List LocationModel) :
    saved.foldl RealmManager.saveLocation realm = ⟨realm.locations ++ saved⟩ := by
  induction saved generalizing realm with
  | nil => simp
  | cons location saved ih =>
      rw [List.foldl_cons, ih]
      simp [RealmManager.saveLocation]

theorem isLocationExists_iff (store : Store RealmTables) (locationName : String) :
    isLocationExists store locationName = true ↔
      ∃ location ∈ getLocationList store, location.locationName = locationName := by
  simp only [isLocationExists, getLocationList]
  cases matching : (store.tables.locations.filter (fun location =>
      location.locationName = locationName)).head? with
  | none =>
      rw [List.head?_eq_none_iff, List.filter_eq_nil_iff] at matching
      simp only [decide_eq_true_eq] at matching
      simp only [Bool.false_eq_true, false_iff, not_exists, not_and]
      exact matching
  | some location =>
      have present := List.mem_filter.mp (List.mem_of_head? matching)
      simp only [true_iff]
      exact ⟨location, present.1, by simpa using present.2⟩

/-- Whatever the calls of the manager, no transaction stays open, and the store is the list that
`RealmManager` keeps when every saved object is saved once, in the order of the first saves. A name
exists exactly if a location on this list has it. -/
theorem store_refines_list (run : machine.Run (start tables) events finish) :
    finish.realmDelegate.writing = none ∧
      finish.realm = (savedLocations events).foldl RealmManager.saveLocation ⟨tables.locations⟩ ∧
      ∀ locationName, isLocationExists finish.realmDelegate locationName = true ↔
        ∃ location ∈ tables.locations ++ savedLocations events,
          location.locationName = locationName := by
  have persisted := persisted_of_run run
  have listed : getLocationList finish.realmDelegate =
      tables.locations ++ savedLocations events := by
    rw [getLocationList, store_eq persisted.atRest]
    exact persisted.locations.rows
  refine ⟨persisted.atRest, ?_, ?_⟩
  · rw [foldl_saveLocation, Persistence.realm, listed]
  · intro locationName
    rw [isLocationExists_iff, listed]

def stairsTwice : List Event :=
  [.newLocation { locationName := "Stairs" }, .newLocation { locationName := "Lobby" },
    .saveLocation 1 none, .saveLocation 0 none, .saveLocation 1 none]

theorem stairsTwice_listed :
    ∃ finish, machine.Run (start {}) stairsTwice finish ∧
      finish.realm = [({ locationName := "Lobby" } : LocationModel),
        { locationName := "Stairs" }].foldl RealmManager.saveLocation ⟨[]⟩ := by
  have run : machine.Run (start {}) stairsTwice ((machine.exec (start {}) stairsTwice).getD
      (start {})) := .of_exec rfl
  exact ⟨_, run, (store_refines_list run).2.1⟩

theorem userDetails_of_run (run : machine.Run (start tables) events finish) :
    finish.realmDelegate.tables.userDetails = tables.userDetails ++
      savedRows (events.filterMap createdUserDetail) (events.filterMap savedUserDetail) := by
  have persisted := persisted_of_run run
  rw [store_eq persisted.atRest]
  exact persisted.userDetails.rows

/-- There is a user detail exactly if one was stored before the launch or saved in it, and once
there is one, no later call of the manager gives another. -/
theorem userDetail_first {later : List Event} {middle : Persistence}
    (run : machine.Run (start tables) events middle) (rest : machine.Run middle later finish) :
    (getUserDetail middle.realmDelegate = .error .unexpectedNil ↔
      tables.userDetails = [] ∧ events.filterMap savedUserDetail = []) ∧
      ∀ userDetail, getUserDetail middle.realmDelegate = .ok userDetail →
        getUserDetail finish.realmDelegate = .ok userDetail := by
  have kept := (persisted_of_run run).userDetails
  have before := userDetails_of_run run
  have after := userDetails_of_run (run.trans rest)
  constructor
  · rw [← kept.savedRows_eq_nil_iff, ← List.append_eq_nil_iff, ← before, getUserDetail]
    cases middle.realmDelegate.tables.userDetails <;> simp
  · intro userDetail isFirst
    have grown : middle.realmDelegate.tables.userDetails <+:
        finish.realmDelegate.tables.userDetails := by
      rw [before, after, List.filterMap_append, List.filterMap_append]
      exact (List.prefix_append_right_inj _).mpr (kept.savedRows_isPrefix _ _)
    rcases grown with ⟨added, grown⟩
    rw [getUserDetail, ← grown]
    rw [getUserDetail] at isFirst
    cases stored : middle.realmDelegate.tables.userDetails with
    | nil => simp [stored] at isFirst
    | cons first others => simpa [stored] using isFirst

def userTwice : List Event :=
  [.newUserDetail { userName := "First" }, .newUserDetail { userName := "Second" },
    .saveUserDetail 0 none]

theorem userTwice_first :
    ∃ middle finish, machine.Run (start {}) userTwice middle ∧
      machine.Run middle [.saveUserDetail 1 none] finish ∧
      getUserDetail finish.realmDelegate = .ok { userName := "First" } := by
  have run : machine.Run (start {}) userTwice ((machine.exec (start {}) userTwice).getD
      (start {})) := .of_exec rfl
  have rest : machine.Run ((machine.exec (start {}) userTwice).getD (start {}))
      [.saveUserDetail 1 none] ((machine.exec (start {}) (userTwice ++
        [.saveUserDetail 1 none])).getD (start {})) := .of_exec rfl
  exact ⟨_, _, run, rest, (userDetail_first run rest).2 _ rfl⟩

/-- The run-time error that a call of the manager ends in. -/
def trap (persistence : Persistence) : Event → Option StoreTrap
  | .saveLocation _ failure | .saveUserDetail _ failure => failure.map StoreTrap.uncaughtError
  | .getUserDetail =>
      if persistence.realmDelegate.tables.userDetails = [] then some .unexpectedNil else none
  | .getLocationModel _ =>
      some (.uncaughtException "'LocationModel' does not have a primary key defined")
  | _ => none

theorem forceTry_error_iff {Row : Type} (schema : ObjectSchema Row)
    (noKey : schema.primaryKey = none) {object : RealmObject Row} (valid : object ≠ .invalidated)
    (tables : RealmTables) (failure : Option String) (error : StoreTrap) :
    forceTry (write (add schema object) failure { committed := tables }) = .error error ↔
      failure.map StoreTrap.uncaughtError = some error := by
  cases failure with
  | some reason =>
      rcases write_add_failing schema noKey valid tables reason with ⟨left, failed⟩
      simp [failed, forceTry, Failure.uncaught]
  | none =>
      cases object with
      | invalidated => exact absurd rfl valid
      | unmanaged value => simp [write_add_unmanaged noKey, forceTry]
      | managed row => simp [write_add_managed, forceTry]

/-- After any calls of the manager, a call fails exactly in the cases that `trap` lists: a save only
when its commit fails, and `getLocationModel` always. That `try! Realm()` opens the store, and that
a transaction can be begun in it, is assumed throughout. -/
theorem fails_iff (run : machine.Run (start tables) events finish) {event : Event}
    (isEnabled : machine.enabled finish event = true) (error : StoreTrap) :
    machine.handle finish event = .error error ↔ trap finish event = some error := by
  have persisted := persisted_of_run run
  cases event with
  | saveLocation reference failure =>
      simp only [machine, enabled, decide_eq_true_eq] at isEnabled
      have present := List.getElem?_eq_getElem isEnabled
      have saves := forceTry_error_iff locationSchema rfl
        (persisted.locations.valid present) finish.realmDelegate.committed failure error
      simp only [machine, handle, present, saveLocation, trap, ← saves]
      rw [store_eq persisted.atRest]
      cases forceTry (write (add locationSchema finish.locations[reference]) failure
        { committed := finish.realmDelegate.committed }) <;> simp
  | saveUserDetail reference failure =>
      simp only [machine, enabled, decide_eq_true_eq] at isEnabled
      have present := List.getElem?_eq_getElem isEnabled
      have saves := forceTry_error_iff userDetailSchema rfl
        (persisted.userDetails.valid present) finish.realmDelegate.committed failure error
      simp only [machine, handle, present, saveUserDetail, trap, ← saves]
      rw [store_eq persisted.atRest]
      cases forceTry (write (add userDetailSchema finish.userDetails[reference]) failure
        { committed := finish.realmDelegate.committed }) <;> simp
  | getUserDetail =>
      simp only [machine, handle, getUserDetail, trap]
      cases finish.realmDelegate.tables.userDetails <;> simp
  | getLocationModel id =>
      simp [machine, handle, getLocationModel, getObject, locationSchema, Failure.uncaught, trap]
  | newLocation value => simp [machine, handle, trap]
  | newUserDetail value => simp [machine, handle, trap]
  | getLocationList => simp [machine, handle, trap]
  | isLocationExists locationName => simp [machine, handle, trap]

theorem diskFull_fails :
    ∃ finish, machine.Run (start {}) [.newLocation {}] finish ∧
      machine.handle finish (.saveLocation 0 (some "No space left on device")) =
        .error (.uncaughtError "No space left on device") := by
  have run : machine.Run (start {}) [.newLocation {}]
      { realmDelegate := { committed := {} }, locations := [.unmanaged {}] } := .of_exec rfl
  exact ⟨_, run, (fails_iff run rfl _).mpr rfl⟩

end Store

end VisionApp.RealmDelegate
