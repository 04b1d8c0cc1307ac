import ShadowIndex.Index.Reindex

/-!
Contract: what changes of records do to the index.

Owns:
- `onChange`: a created or updated record gets a stale entry, a destroyed one loses its entry
  and lock; then the records that depend on it get stale entries;
- `markType`, which flags every entry of a type whose searchable fields changed.

Main rules: a type without searchable fields has no entries; dependents of dependents are left
alone; the first relation that cannot be resolved ends the notification.

Does not own: who tells of changes.
-/

set_option autoImplicit false

namespace ShadowIndex

inductive ChangeKind where
  | create
  | update
  | destroy
deriving DecidableEq, Repr, Inhabited

def ChangeKind.text : ChangeKind → String
  | .create => "create"
  | .update => "update"
  | .destroy => "destroy"

/-- A committed change of a record. -/
structure Change where
  kind : ChangeKind
  entityType : String
  id : Value
deriving Inhabited

namespace Index

/-- An entry of a type with searchable fields becomes stale, and is built at once where that is
asked for. -/
def invalidate (catalog : Catalog) (source : Source) (cause entityType : String) (id : Value) :
    Action Index Unit := do
  if !catalog.registry.isRegistered entityType then return ()
  let _ ← holding entityType id (ensureStale entityType id)
  count .staleMarks [("cause", cause), ("entity_type", entityType)] 1
  if !catalog.settings.eagerReindex then return ()
  match ← (reindexOne catalog source entityType id).attempt with
  | .ok _ => return ()
  | .error failure =>
      if isRebuildFailure failure then note (.eagerFailed failure)
      else Action.fail failure

/-- The entries of the records that one dependency reaches become stale. -/
def cascadeAlong (catalog : Catalog) (source : Source) (entityType : String) (id : Value)
    (edge : Dependency) : Action Index Unit := do
  if !catalog.registry.isRegistered edge.dependent then
    note (.dependencyIgnored edge.dependent entityType)
  else
    match ← (reading (source.resolve entityType id edge.relation)).attempt with
    | .error cause =>
        Action.fail
          (if cause.isEnding then cause else .association entityType id edge.relation cause)
    | .ok dependents =>
        let _ ← Action.each
          (fun (dependent : Ref) =>
            invalidate catalog source "dependency" edge.dependent dependent.id.value)
          dependents
        if !dependents.isEmpty then
          note (.dependentsMarked entityType id dependents.length edge.dependent)

/-- The entries of all records that depend on a record become stale. -/
def cascade (catalog : Catalog) (source : Source) (entityType : String) (id : Value) :
    Action Index Unit := do
  let _ ← Action.each (cascadeAlong catalog source entityType id)
    (catalog.dependencies.edgesFrom entityType)

/-- The entry of a destroyed record goes. -/
def forget (entityType : String) (id : Value) : Action Index Unit := do
  holding entityType id do
    if ← delete entityType id then note (.entryDeleted entityType id)
  discardLock entityType id

def onChange (catalog : Catalog) (source : Source) (change : Change) : Action Index Unit :=
  bound [("operation", .str change.kind.text), ("entity_type", .str change.entityType),
      ("record_id", change.id)] do
    match change.kind with
    | .destroy => forget change.entityType change.id
    | kind => invalidate catalog source kind.text change.entityType change.id
    cascade catalog source change.entityType change.id

/-- Flags one entry, and tells whether it is there. -/
def markOne (entityType : String) (id : Id) : Action Index Bool :=
  holding entityType id.value (markStale entityType id.value)

def markType (entityType : String) : Action Index Unit := do
  let owners ← query fun store => store.ownerIds entityType
  let marks ← Action.each (markOne entityType) owners
  let marked := (marks.filter id).length
  if marked ≠ 0 then
    count .staleMarks [("cause", "syntax"), ("entity_type", entityType)] marked
    note (.typeMarked entityType marked)

end Index

end ShadowIndex
