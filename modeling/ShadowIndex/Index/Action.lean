import ShadowIndex.Action
import ShadowIndex.Index.Locks
import ShadowIndex.Observe.Trail
import ShadowIndex.Store.Basic
import ShadowIndex.Value.Stream

/-!
Contract: actions on the index, and their brackets.

Owns:
- `Index`, the state of the index: entries, locks, the trail, and the streams that were read;
- brackets that close what they open whether or not the work between them fails: bound log
  fields, spans, timed work, and locks.

Does not own: what the index is used for.
-/

set_option autoImplicit false

namespace ShadowIndex

abbrev LockKey := String × Key

structure Index where
  store : Store
  locks : KeyedLocks LockKey
  trail : Trail
  streams : Streams

instance : Inhabited Index := ⟨⟨default, default, .empty, .none⟩⟩

namespace Index

variable {α : Type}

def record (event : Event) (index : Index) : Index :=
  { index with trail := index.trail.record event }

def emit (event : Event) : Action Index Unit := Action.change (record event)

def note (note : Note) : Action Index Unit := emit (.note note)

def count (metric : Metric) (labels : List (String × String)) (amount : Nat) :
    Action Index Unit :=
  emit (.count metric labels amount)

/-! ## Brackets -/

/-- Work with fields bound to every line that it writes. -/
def bound (fields : List (String × Value)) (work : Action Index α) : Action Index α := do
  emit (.bind fields)
  work.ensuring fun _ => record .unbind

/-- Work in a span, which reports its failure. -/
def span (name : String) (attributes : List (String × Value)) (work : Action Index α) :
    Action Index α := do
  emit (.openSpan name attributes)
  work.ensuring fun outcome =>
    match outcome with
    | .ok _ => record (.closeSpan none)
    | .error failure => record (.closeSpan (some failure))

/-- Work whose duration is counted once, whether or not it fails. -/
def timed (labels : List (String × String)) (work : Action Index α) : Action Index α :=
  work.ensuring fun _ => record (.count .latency labels 1)

def holding (entityType : String) (id : Value) (work : Action Index α) : Action Index α := do
  let key ← Action.lift id.key
  Action.change fun index => { index with locks := index.locks.enter (entityType, key) }
  work.ensuring fun _ index => { index with locks := index.locks.leave (entityType, key) }

/-- Forgets the lock of a record, unless it is held. -/
def discardLock (entityType : String) (id : Value) : Action Index Unit := do
  let key ← Action.lift id.key
  Action.change fun index => { index with locks := index.locks.discard (entityType, key) }

/-- Runs an action that reads streams. -/
def reading (action : Action Streams α) : Action Index α := fun index =>
  let (outcome, streams) := action index.streams
  (outcome, { index with streams := streams })

/-! ## The store -/

def query (look : Store → Except Failure α) : Action Index α := fun index =>
  (look index.store, index)

/-- Changes the store; a change that fails changes nothing. -/
def write (update : Store → Except Failure (α × Store)) : Action Index α := fun index =>
  match update index.store with
  | .ok (value, store) => (.ok value, { index with store := store })
  | .error failure => (.error failure, index)

def entry (entityType : String) (id : Value) : Action Index (Option Entry) :=
  query fun store => store.get entityType id

def upsert (entry : Entry) : Action Index Unit :=
  write fun store => (store.upsert entry).map fun store => ((), store)

def delete (entityType : String) (id : Value) : Action Index Bool :=
  write fun store => store.delete entityType id

def markStale (entityType : String) (id : Value) : Action Index Bool :=
  write fun store => store.markStale entityType id

def ensureStale (entityType : String) (id : Value) : Action Index Entry :=
  write fun store => store.ensureStale entityType id

/-! ## Frames -/

@[simp] theorem locks_write (update : Store → Except Failure (α × Store)) (index : Index) :
    (write update index).2.locks = index.locks := by
  unfold write
  split <;> rfl

end Index

end ShadowIndex
