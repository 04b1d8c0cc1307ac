import ShadowIndex.Store.Row

/-!
Contract: the index store in a database table.

Owns:
- `Database`, a table with one numbered row for each owner;
- how values bind to parameters: integers of 64 bits, and nothing that is no scalar;
- listings by row number, which is the order of insertion.

Does not own: the file format, or the pragmas of a connection.
-/

set_option autoImplicit false

namespace ShadowIndex

/-- A database of index entries. `location` is what messages call it; a database that is not
`onFile` lives as long as its connection, and `opened` tells whether it has its table. -/
structure Database where
  location : String
  onFile : Bool
  opened : Bool
  rows : Table Ref DatabaseRow

namespace Database

def memoryLocation : String := ":memory:"

def create (location : String) : Database :=
  ⟨location, decide (location ≠ memoryLocation), true, .empty⟩

instance : Inhabited Database := ⟨create memoryLocation⟩

def tableName : String := "search_texts"

def fits (whole : Int) : Bool := decide (-(2 ^ 63) ≤ whole) && decide (whole < 2 ^ 63)

/-- Every statement needs the table. -/
def requireTable (database : Database) : Except Failure Unit :=
  if database.opened then .ok () else .error (.store database.location (.noTable tableName))

/-- Binds an id that an entry has. -/
def bindId : Id → Except Failure Unit
  | .int whole => if fits whole then .ok () else .error .integerTooLarge
  | .str _ => .ok ()

/-- Binds a value as the second parameter of a look-up, and gives the id that it equals. -/
def bindValue (database : Database) (value : Value) : Except Failure (Option Id) :=
  match value with
  | .int whole => if fits whole then .ok (some (.int whole)) else .error .integerTooLarge
  | .str text => .ok (some (.str text))
  | .bool truth => .ok (some (.int truth.toInt))
  | .float number => .ok ((number.toInt?.filter fits).map Id.int)
  | .nothing | .bytes _ | .buffer _ => .ok none
  | value => .error (.store database.location (.unsupported 2 value.typeName))

def ownerOf (database : Database) (entityType : String) (id : Value) :
    Except Failure (Option Ref) := do
  database.requireTable
  let id ← database.bindValue id
  return id.map fun id => ⟨entityType, id⟩

def find? (database : Database) (owner : Ref) : Option Entry :=
  (database.rows.find? owner).map fun row => ⟨owner, row.content⟩

/-- A number above that of every row. -/
def nextNumber (database : Database) : Nat :=
  database.rows.values.foldl (fun greatest row => max greatest row.number) 0 + 1

/-- Writes an entry; a row that is there keeps its number. -/
def upsert (database : Database) (entry : Entry) : Database :=
  let number := match database.rows.find? entry.owner with
    | some row => row.number
    | none => database.nextNumber
  { database with rows := database.rows.insert entry.owner (.write number entry.content) }

def erase (database : Database) (owner : Ref) : Database :=
  { database with rows := database.rows.erase owner }

/-- Flags the row of an owner, without reading its texts. -/
def flagStale (database : Database) (owner : Ref) : Database :=
  { database with rows := database.rows.modify owner DatabaseRow.asStale }

/-- The rows in the order of their numbers. -/
def ordered (database : Database) : List (Ref × DatabaseRow) :=
  database.rows.rows.mergeSort fun left right => decide (left.2.number ≤ right.2.number)

def entries (database : Database) : List Entry :=
  database.ordered.map fun row => ⟨row.1, row.2.content⟩

def ofType (database : Database) (entityType : String) : List Entry :=
  database.entries.filter fun entry => decide (entry.owner.entityType = entityType)

/-- The entries of a type whose flag is one. -/
def staleOfType (database : Database) (entityType : String) : List Entry :=
  (database.ordered.filter fun row =>
    decide (row.1.entityType = entityType) && decide (row.2.columns.stale = 1)).map fun row =>
      ⟨row.1, row.2.content⟩

def clear (database : Database) : Option String → Database
  | none => { database with rows := .empty }
  | some entityType =>
      { database with
        rows := database.rows.filter fun row => decide (row.1.entityType ≠ entityType) }

/-- A closed database on file is opened again when it is next used; any other is gone. -/
def close (database : Database) : Database :=
  if database.onFile then database else { database with opened := false, rows := .empty }

/-! ## Look-up -/

theorem find?_upsert (database : Database) (entry : Entry) (owner : Ref) :
    (database.upsert entry).find? owner =
      if owner = entry.owner then some entry else database.find? owner := by
  simp only [find?, upsert, Table.find?_insert]
  by_cases same : owner = entry.owner
  · simp [same]
  · simp [same]

theorem find?_erase (database : Database) (owner other : Ref) :
    (database.erase owner).find? other =
      if other = owner then none else database.find? other := by
  simp only [find?, erase, Table.find?_erase]
  by_cases same : other = owner
  · simp [same]
  · simp [same]

/-- Flagging changes nothing but the flag of a row that is there. -/
theorem find?_flagStale (database : Database) (owner other : Ref) :
    (database.flagStale owner).find? other =
      if other = owner then (database.find? owner).map Entry.asStale
      else database.find? other := by
  simp only [find?, flagStale, Table.find?_modify]
  by_cases same : other = owner
  · subst same
    cases database.rows.find? other <;> simp [Entry.asStale]
  · simp [same]

/-- The selection by the flag finds the entries that are stale. -/
theorem staleOfType_eq (database : Database) (entityType : String) :
    database.staleOfType entityType =
      (database.ofType entityType).filter fun entry => entry.content.stale := by
  simp only [staleOfType, ofType, entries, List.filter_map, List.filter_filter,
    DatabaseRow.stale_eq_one, Function.comp_def, Bool.and_comm]

end Database

end ShadowIndex
