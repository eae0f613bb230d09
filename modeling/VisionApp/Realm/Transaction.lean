import Mathlib.Data.List.Basic

/-!
# Write transactions

A store of tables is read as it is and written inside a transaction only. An
operation on it returns, or throws an error that its caller may catch, or raises
an exception that nobody catches; in all three cases it leaves the store in some
state. `write` runs a block inside a transaction of its own: what the block wrote
is committed when the block returns and undone when it throws.

A commit may fail for reasons outside the program, so it is told whether it does.
-/

namespace Transaction

structure Store (Tables : Type) where
  committed : Tables
  /-- The tables as the open transaction has written them so far. -/
  writing : Option Tables := none
deriving DecidableEq, Repr

inductive Failure where
  | error (reason : String)
  | exception (reason : String)
deriving DecidableEq, Repr

abbrev Operation (Tables : Type) (Value : Type) : Type :=
  EStateM Failure (Store Tables) Value

variable {Tables Value : Type}

namespace Store

/-- What a read sees. -/
def tables (store : Store Tables) : Tables :=
  store.writing.getD store.committed

def isInWriteTransaction (store : Store Tables) : Bool :=
  store.writing.isSome

end Store

def beginWrite : Operation Tables Unit := fun store =>
  match store.writing with
  | none => .ok () { store with writing := some store.committed }
  | some _ => .error (.exception "The Realm is already in a write transaction") store

/-- A commit that fails leaves the transaction open. -/
def commitWrite (failure : Option String) : Operation Tables Unit := fun store =>
  match store.writing, failure with
  | none, _ => .error (.error "Can't commit a non-existing write transaction") store
  | some _, some reason => .error (.error reason) store
  | some tables, none => .ok () { committed := tables }

def cancelWrite : Operation Tables Unit := fun store =>
  match store.writing with
  | none => .error (.exception "Can't cancel a non-existing write transaction") store
  | some _ => .ok () { store with writing := none }

/-- The `do` and `catch` of `write`, in the transaction that was begun. -/
def endWrite (failure : Option String) (ran : EStateM.Result Failure (Store Tables) Value) :
    EStateM.Result Failure (Store Tables) Value :=
  match ran with
  | .ok value store =>
      if store.isInWriteTransaction then
        match commitWrite failure store with
        | .ok _ store => .ok value store
        | .error reason store => .error reason store
      else .ok value store
  | .error (.error reason) store =>
      if store.isInWriteTransaction then
        match cancelWrite store with
        | .ok _ store => .error (.error reason) store
        | .error raised store => .error raised store
      else .error (.error reason) store
  | .error (.exception reason) store => .error (.exception reason) store

def write (block : Operation Tables Value) (failure : Option String) : Operation Tables Value :=
  fun store =>
    match beginWrite store with
    | .ok _ store => endWrite failure (block store)
    | .error reason store => .error reason store

/-- Run in a transaction, the block stays in it and leaves what is committed alone. -/
def Writes (block : Operation Tables Value) : Prop :=
  ∀ committed tables,
    match block { committed := committed, writing := some tables } with
    | .ok _ after | .error _ after =>
        after.committed = committed ∧ after.isInWriteTransaction = true

/-- A block that returns has written all that it wrote, once its commit succeeds. -/
theorem write_of_ok {block : Operation Tables Value} (writes : Writes block) {committed : Tables}
    {value : Value} {after : Store Tables}
    (returned : block { committed := committed, writing := some committed } = .ok value after) :
    write block none { committed := committed } = .ok value { committed := after.tables } := by
  have inside := writes committed committed
  rw [returned] at inside
  rcases Option.isSome_iff_exists.mp inside.2 with ⟨written, isWritten⟩
  simp [write, beginWrite, returned, endWrite, inside.2, commitWrite, isWritten, Store.tables]

end Transaction
