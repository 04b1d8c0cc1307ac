import ShadowIndex.Store.Database
import ShadowIndex.Store.Memory

/-!
Contract: index stores, whichever way they keep entries.

Owns:
- `Store`, in memory or in a database, with at most one entry for each owner;
- look-ups, listings and changes of entries; a change that fails changes nothing.

Does not own: which entries there should be.
-/

set_option autoImplicit false

namespace ShadowIndex

inductive Store where
  | memory (entries : MemoryStore)
  | database (table : Database)
deriving Inhabited

namespace Store

def emptyMemory : Store := .memory .empty

/-- The owner that a type and a value name in a store. -/
def ownerOf (store : Store) (entityType : String) (id : Value) : Except Failure (Option Ref) :=
  match store with
  | memory _ => MemoryStore.ownerOf entityType id
  | database table => table.ownerOf entityType id

/-- What every listing needs. -/
def requireOpen : Store → Except Failure Unit
  | memory _ => .ok ()
  | database table => table.requireTable

def find? (store : Store) (owner : Ref) : Option Entry :=
  match store with
  | memory entries => entries.find? owner
  | database table => table.find? owner

def get (store : Store) (entityType : String) (id : Value) : Except Failure (Option Entry) :=
  (store.ownerOf entityType id).map fun owner => owner.bind store.find?

/-- Writes an entry in place of the one its owner has, or after all others. -/
def upsert (store : Store) (entry : Entry) : Except Failure Store :=
  match store with
  | memory entries => .ok (.memory (entries.upsert entry))
  | database table => do
      table.requireTable
      Database.bindId entry.owner.id
      return .database (table.upsert entry)

def erase (store : Store) (owner : Ref) : Store :=
  match store with
  | memory entries => .memory (entries.erase owner)
  | database table => .database (table.erase owner)

/-- Whether there is nothing to look for. A database has to look. -/
def isVacant : Store → Bool
  | memory entries => entries.entries.isEmpty
  | database _ => false

/-- Removes the entry of a record, and tells whether there was one. -/
def delete (store : Store) (entityType : String) (id : Value) : Except Failure (Bool × Store) := do
  if store.isVacant then return (false, store)
  match ← store.ownerOf entityType id with
  | none => return (false, store)
  | some owner =>
      if (store.find? owner).isSome then return (true, store.erase owner)
      else return (false, store)

def entries : Store → List Entry
  | memory entries => entries.entries
  | database table => table.entries

def allFor (store : Store) (entityType : String) : Except Failure (List Entry) := do
  store.requireOpen
  match store with
  | memory entries => return entries.ofType entityType
  | database table => return table.ofType entityType

def allStaleFor (store : Store) (entityType : String) : Except Failure (List Entry) := do
  store.requireOpen
  match store with
  | memory entries => return (entries.ofType entityType).filter fun entry => entry.content.stale
  | database table => return table.staleOfType entityType

/-- Whichever way a store finds them, the entries out of date are among those of the type. -/
theorem allStaleFor_eq (store : Store) (entityType : String) :
    store.allStaleFor entityType =
      (store.allFor entityType).map fun entries =>
        entries.filter fun entry => entry.content.stale := by
  cases store with
  | memory entries => rfl
  | database table =>
      cases opened : requireOpen (.database table) <;>
        simp only [allStaleFor, allFor, opened, Database.staleOfType_eq] <;> rfl

def ownerIds (store : Store) (entityType : String) : Except Failure (List Id) :=
  (store.allFor entityType).map fun entries => entries.map fun entry => entry.owner.id

/-- How many entries a type has, or how many there are. -/
def count (store : Store) : Option String → Except Failure Nat
  | some entityType => (store.allFor entityType).map List.length
  | none => store.requireOpen.map fun _ => store.entries.length

/-- Removes the entries of a type, or all, and tells how many there were. -/
def clear (store : Store) (entityType : Option String) : Except Failure (Nat × Store) :=
  (store.count entityType).map fun removed =>
    (removed,
      match store with
      | memory entries => .memory (entries.clear entityType)
      | database table => .database (table.clear entityType))

def flagStale (store : Store) (owner : Ref) : Store :=
  match store with
  | memory entries =>
      match entries.find? owner with
      | some entry => if entry.content.stale then store else .memory (entries.upsert entry.asStale)
      | none => store
  | database table => .database (table.flagStale owner)

/-- Flags the entry of a record, and tells whether there is one. -/
def markStale (store : Store) (entityType : String) (id : Value) :
    Except Failure (Bool × Store) := do
  match ← store.ownerOf entityType id with
  | none => return (false, store)
  | some owner => return ((store.find? owner).isSome, store.flagStale owner)

/-- Flags the entry of a record; a record without one gets a placeholder. -/
def ensureStale (store : Store) (entityType : String) (id : Value) :
    Except Failure (Entry × Store) := do
  match ← store.get entityType id with
  | some entry =>
      if entry.content.stale then return (entry, store)
      else return (entry.asStale, ← store.upsert entry.asStale)
  | none =>
      match Entry.placeholder (.str entityType) id with
      | .error issues => throw (.invalid Entry.subject issues)
      | .ok entry => return (entry, ← store.upsert entry)

def close : Store → Store
  | memory entries => .memory entries
  | database table => .database table.close

/-- A store of the same kind after a restart: what is on file is still there. -/
def restart : Store → Store
  | memory _ => emptyMemory
  | database table =>
      .database (if table.onFile then table else Database.create table.location)

end Store

end ShadowIndex
