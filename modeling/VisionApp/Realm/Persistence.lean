import VisionApp.EventMachine.Basic
import VisionApp.Realm.RealmManager
import VisionApp.Realm.Transaction

/-!
# The store as Realm keeps it

`RealmManager` writes through Realm. An object is the program's own until it is
added, and from then on it stands for a row of its table. Adding it once more does
nothing, so a row belongs to an object and not to a call of `saveLocation`.

Every call of the manager is a whole transaction. What it makes of the store is
what the list of saved locations says, with each object saved once.
-/

namespace VisionApp

open Transaction

structure UserDetailModel where
  userName : String := ""
  userAddress : String := ""
  userNumber : String := ""
  userEmergencyNumber : String := ""
deriving DecidableEq, Repr

structure RealmTables where
  locations : List LocationModel := []
  userDetails : List UserDetailModel := []
deriving DecidableEq, Repr

/-- An object of a model class: not added yet, a row of its table, or one that is gone. -/
inductive RealmObject (Row : Type) where
  | unmanaged (value : Row)
  | managed (row : ℕ)
  | invalidated
deriving DecidableEq, Repr

/-- A model class, with its table and the primary key it declares. -/
structure ObjectSchema (Row : Type) where
  className : String
  rows : RealmTables → List Row
  addRow : RealmTables → Row → RealmTables
  primaryKey : Option (Row → ℤ) := none
  rows_addRow : ∀ tables row, rows (addRow tables row) = rows tables ++ [row]

/-- `LocationModel` overrides no `primaryKey()`. -/
def locationSchema : ObjectSchema LocationModel where
  className := "LocationModel"
  rows := RealmTables.locations
  addRow tables row := { tables with locations := tables.locations ++ [row] }
  rows_addRow _ _ := rfl

def userDetailSchema : ObjectSchema UserDetailModel where
  className := "UserDetailModel"
  rows := RealmTables.userDetails
  addRow tables row := { tables with userDetails := tables.userDetails ++ [row] }
  rows_addRow _ _ := rfl

section Objects

variable {Row : Type}

/-- `Object::create`, with the row that the object becomes. -/
def createObject (schema : ObjectSchema Row) (value : Row) (tables : RealmTables) :
    Except Failure RealmTables :=
  match schema.primaryKey with
  | none => .ok (schema.addRow tables value)
  | some primaryKey =>
      if (schema.rows tables).any (fun row => primaryKey row = primaryKey value) then
        .error (.exception ("Attempting to create an object of type '" ++ schema.className ++
          "' with an existing primary key value '" ++ toString (primaryKey value) ++ "'."))
      else .ok (schema.addRow tables value)

/-- `Realm.add`, which is `RLMAddObjectToRealm`. The object comes back as it is afterwards. -/
def add (schema : ObjectSchema Row) (object : RealmObject Row) :
    Operation RealmTables (RealmObject Row) := fun store =>
  match store.writing with
  | none =>
      .error (.exception ("Can only add, remove, or create objects in a Realm in a write " ++
        "transaction - call beginWriteTransaction on an RLMRealm instance first.")) store
  | some tables =>
      match object with
      | .invalidated =>
          .error (.exception "Adding a deleted or invalidated object to a Realm is not permitted")
            store
      | .managed row => .ok (.managed row) store
      | .unmanaged value =>
          match createObject schema value tables with
          | .ok written =>
              .ok (.managed (schema.rows tables).length) { store with writing := some written }
          | .error failure => .error failure store

/-- `RLMGetObject` -/
def getObject (schema : ObjectSchema Row) (store : Store RealmTables) (key : ℤ) :
    Except Failure (Option Row) :=
  match schema.primaryKey with
  | none => .error (.exception ("'" ++ schema.className ++ "' does not have a primary key defined"))
  | some primaryKey => .ok ((schema.rows store.tables).find? (fun row => primaryKey row = key))

theorem writes_add (schema : ObjectSchema Row) (object : RealmObject Row) :
    Writes (add schema object) := by
  intro committed tables
  cases object with
  | unmanaged value =>
      simp only [add]
      cases createObject schema value tables <;> exact ⟨rfl, rfl⟩
  | managed row => exact ⟨rfl, rfl⟩
  | invalidated => exact ⟨rfl, rfl⟩

theorem write_add_unmanaged {schema : ObjectSchema Row} (noKey : schema.primaryKey = none)
    (tables : RealmTables) (value : Row) :
    write (add schema (.unmanaged value)) none { committed := tables } =
      .ok (.managed (schema.rows tables).length) { committed := schema.addRow tables value } := by
  have returned : add schema (.unmanaged value) { committed := tables, writing := some tables } =
      .ok (.managed (schema.rows tables).length)
        { committed := tables, writing := some (schema.addRow tables value) } := by
    simp [add, createObject, noKey]
  exact write_of_ok (writes_add schema _) returned

theorem write_add_managed (schema : ObjectSchema Row) (tables : RealmTables) (row : ℕ) :
    write (add schema (.managed row)) none { committed := tables } =
      .ok (.managed row) { committed := tables } := by
  have returned : add schema (.managed row) { committed := tables, writing := some tables } =
      .ok (.managed row) { committed := tables, writing := some tables } := rfl
  exact write_of_ok (writes_add schema _) returned

/-- A failing commit fails the call, whatever is added. -/
theorem write_add_failing (schema : ObjectSchema Row) {object : RealmObject Row}
    (noKey : schema.primaryKey = none) (valid : object ≠ .invalidated) (tables : RealmTables)
    (reason : String) :
    ∃ after, write (add schema object) (some reason) { committed := tables } =
      .error (.error reason) after := by
  cases object with
  | unmanaged value =>
      simp [write, beginWrite, add, createObject, noKey, endWrite, Store.isInWriteTransaction,
        commitWrite]
  | managed row =>
      simp [write, beginWrite, add, endWrite, Store.isInWriteTransaction, commitWrite]
  | invalidated => exact absurd rfl valid

end Objects

/-- A run-time error of the manager: a `nil` that is unwrapped, an error under `try!`, or an
exception of Realm. -/
inductive StoreTrap where
  | unexpectedNil
  | uncaughtError (reason : String)
  | uncaughtException (reason : String)
deriving DecidableEq, Repr

def Failure.uncaught : Failure → StoreTrap
  | .error reason => .uncaughtError reason
  | .exception reason => .uncaughtException reason

/-- `try!` -/
def forceTry {Value : Type} (ran : EStateM.Result Failure (Store RealmTables) Value) :
    Except StoreTrap (Value × Store RealmTables) :=
  match ran with
  | .ok value store => .ok (value, store)
  | .error failure _ => .error (Failure.uncaught failure)

/-! The functions of `RealmManager`, on its `realmDelegate`. -/

namespace RealmDelegate

def saveUserDetail (realmDelegate : Store RealmTables) (userDetails : RealmObject UserDetailModel)
    (failure : Option String) :
    Except StoreTrap (RealmObject UserDetailModel × Store RealmTables) :=
  forceTry (write (add userDetailSchema userDetails) failure realmDelegate)

def getUserDetail (realmDelegate : Store RealmTables) : Except StoreTrap UserDetailModel :=
  match realmDelegate.tables.userDetails.head? with
  | some userDetail => .ok userDetail
  | none => .error .unexpectedNil

def saveLocation (realmDelegate : Store RealmTables) (locationDetails : RealmObject LocationModel)
    (failure : Option String) :
    Except StoreTrap (RealmObject LocationModel × Store RealmTables) :=
  forceTry (write (add locationSchema locationDetails) failure realmDelegate)

def getLocationModel (realmDelegate : Store RealmTables) (id : ℤ) :
    Except StoreTrap LocationModel :=
  match getObject locationSchema realmDelegate id with
  | .ok (some locationModel) => .ok locationModel
  | .ok none => .error .unexpectedNil
  | .error failure => .error (Failure.uncaught failure)

def getLocationList (realmDelegate : Store RealmTables) : List LocationModel :=
  realmDelegate.tables.locations

def isLocationExists (realmDelegate : Store RealmTables) (locationName : String) : Bool :=
  match (realmDelegate.tables.locations.filter (fun location =>
      location.locationName = locationName)).head? with
  | some _ => true
  | none => false

/-- The store and the objects that the program made, each named by the number made before it. -/
structure Persistence where
  realmDelegate : Store RealmTables
  locations : List (RealmObject LocationModel) := []
  userDetails : List (RealmObject UserDetailModel) := []
deriving DecidableEq, Repr

inductive Event where
  | newLocation (value : LocationModel)
  | saveLocation (reference : ℕ) (failure : Option String)
  | newUserDetail (value : UserDetailModel)
  | saveUserDetail (reference : ℕ) (failure : Option String)
  | getUserDetail
  | getLocationModel (id : ℤ)
  | getLocationList
  | isLocationExists (locationName : String)
deriving DecidableEq, Repr

inductive Output where
  | userDetail (userDetail : UserDetailModel)
  | locationModel (location : LocationModel)
  | locationList (locations : List LocationModel)
  | isExisting (isExisting : Bool)
deriving DecidableEq, Repr

def enabled (persistence : Persistence) : Event → Bool
  | .saveLocation reference _ => reference < persistence.locations.length
  | .saveUserDetail reference _ => reference < persistence.userDetails.length
  | _ => true

def handle (persistence : Persistence) : Event → Except StoreTrap (Persistence × List Output)
  | .newLocation value =>
      .ok ({ persistence with locations := persistence.locations ++ [.unmanaged value] }, [])
  | .saveLocation reference failure =>
      match persistence.locations[reference]? with
      | none => .ok (persistence, [])
      | some object =>
          match saveLocation persistence.realmDelegate object failure with
          | .ok (object, realmDelegate) =>
              .ok ({ persistence with
                realmDelegate := realmDelegate
                locations := persistence.locations.set reference object }, [])
          | .error trap => .error trap
  | .newUserDetail value =>
      .ok ({ persistence with userDetails := persistence.userDetails ++ [.unmanaged value] }, [])
  | .saveUserDetail reference failure =>
      match persistence.userDetails[reference]? with
      | none => .ok (persistence, [])
      | some object =>
          match saveUserDetail persistence.realmDelegate object failure with
          | .ok (object, realmDelegate) =>
              .ok ({ persistence with
                realmDelegate := realmDelegate
                userDetails := persistence.userDetails.set reference object }, [])
          | .error trap => .error trap
  | .getUserDetail =>
      match getUserDetail persistence.realmDelegate with
      | .ok userDetail => .ok (persistence, [.userDetail userDetail])
      | .error trap => .error trap
  | .getLocationModel id =>
      match getLocationModel persistence.realmDelegate id with
      | .ok location => .ok (persistence, [.locationModel location])
      | .error trap => .error trap
  | .getLocationList =>
      .ok (persistence, [.locationList (getLocationList persistence.realmDelegate)])
  | .isLocationExists locationName =>
      .ok (persistence, [.isExisting (isLocationExists persistence.realmDelegate locationName)])

def machine : EventMachine.Machine Persistence Event Output StoreTrap where
  enabled := enabled
  handle := handle

/-- The store of an earlier launch, before any object is made. -/
def start (tables : RealmTables) : Persistence where
  realmDelegate := { committed := tables }

end RealmDelegate

end VisionApp
