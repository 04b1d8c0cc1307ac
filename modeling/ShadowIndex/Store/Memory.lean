import ShadowIndex.Index.Entry
import ShadowIndex.Value.Key

/-!
Contract: the index store in memory.

Owns: `MemoryStore`, one content for each owner in order of insertion, and its operations.

Does not own: when entries are written.
-/

set_option autoImplicit false

namespace ShadowIndex

structure MemoryStore where
  contents : Table Ref Content

namespace MemoryStore

def empty : MemoryStore := ⟨.empty⟩

instance : Inhabited MemoryStore := ⟨empty⟩

/-- The owner that a type and a value name; a value that equals no id names none. -/
def ownerOf (entityType : String) (id : Value) : Except Failure (Option Ref) :=
  id.key.map fun key => key.id?.map fun id => ⟨entityType, id⟩

def find? (store : MemoryStore) (owner : Ref) : Option Entry :=
  (store.contents.find? owner).map fun content => ⟨owner, content⟩

/-- Replaces the entry of an owner where it stands, and appends one of a new owner. -/
def upsert (store : MemoryStore) (entry : Entry) : MemoryStore :=
  ⟨store.contents.insert entry.owner entry.content⟩

def erase (store : MemoryStore) (owner : Ref) : MemoryStore := ⟨store.contents.erase owner⟩

def entries (store : MemoryStore) : List Entry :=
  store.contents.rows.map fun row => ⟨row.1, row.2⟩

def ofType (store : MemoryStore) (entityType : String) : List Entry :=
  store.entries.filter fun entry => decide (entry.owner.entityType = entityType)

def clear (store : MemoryStore) : Option String → MemoryStore
  | none => .empty
  | some entityType =>
      ⟨store.contents.filter fun row => decide (row.1.entityType ≠ entityType)⟩

/-! ## Look-up -/

theorem find?_upsert (store : MemoryStore) (entry : Entry) (owner : Ref) :
    (store.upsert entry).find? owner =
      if owner = entry.owner then some entry else store.find? owner := by
  simp only [find?, upsert, Table.find?_insert]
  by_cases same : owner = entry.owner
  · simp [same]
  · simp [same]

theorem find?_erase (store : MemoryStore) (owner other : Ref) :
    (store.erase owner).find? other = if other = owner then none else store.find? other := by
  simp only [find?, erase, Table.find?_erase]
  by_cases same : other = owner
  · simp [same]
  · simp [same]

end MemoryStore

end ShadowIndex
