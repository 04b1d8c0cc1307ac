import ShadowIndex.Index.Action
import ShadowIndex.Index.Catalog

/-!
Contract: rebuilding of stale entries from the records that the host has now.

Owns:
- `rebuild` of one entry, stale or not; an entry whose record is gone is removed;
- `reindexAll`, every stale entry of a type; one that cannot be built stays as it is and does
  not stop the others.

Does not own: what makes entries stale.
-/

set_option autoImplicit false

namespace ShadowIndex.Index

/-- Builds the entry of a record and writes it; removes it when the record is gone. -/
def rebuild (catalog : Catalog) (source : Source) (entityType : String) (id : Value) :
    Action Index (Option Entry) := do
  match ← reading (catalog.liveEntry source entityType id) with
  | none =>
      let _ ← delete entityType id
      note (.vanishedRemoved entityType id)
      return none
  | some entry =>
      upsert entry
      count .reindexed [("entity_type", entityType)] 1
      return some entry

/-- Builds one entry under its lock; the lock of a record that is gone is forgotten. -/
def reindexOne (catalog : Catalog) (source : Source) (entityType : String) (id : Value) :
    Action Index (Option Entry) := do
  let entry ← holding entityType id (rebuild catalog source entityType id)
  if entry.isNone then discardLock entityType id
  return entry

/-- What became of a stale entry in a batch. -/
inductive Outcome where
  | skipped
  | rebuilt
  | removed
  | failed
deriving DecidableEq, Repr

def isRebuildFailure : Failure → Bool
  | .reindex .. => true
  | _ => false

/-- Builds the entry of an owner if it is still stale; a failure to build it is noted. -/
def refreshHeld (catalog : Catalog) (source : Source) (entityType : String) (id : Id) :
    Action Index Outcome := do
  match ← entry entityType id.value with
  | none => return .skipped
  | some current =>
      if !current.content.stale then return .skipped
      match ← (rebuild catalog source entityType id.value).attempt with
      | .ok (some _) => return .rebuilt
      | .ok none => return .removed
      | .error failure =>
          if isRebuildFailure failure then
            note (.staysStale failure)
            count .reindexFailures [("entity_type", entityType)] 1
            return .failed
          else Action.fail failure

def refresh (catalog : Catalog) (source : Source) (entityType : String) (id : Id) :
    Action Index (Id × Outcome) := do
  let outcome ← holding entityType id.value (refreshHeld catalog source entityType id)
  if outcome = .removed then discardLock entityType id.value
  return (id, outcome)

def withOutcome (outcome : Outcome) (members : List (Id × Outcome)) : List Id :=
  (members.filter fun member => decide (member.2 = outcome)).map Prod.fst

def reportOf (entityType : String) (members : List (Id × Outcome)) : Report :=
  ⟨entityType, withOutcome .rebuilt members, withOutcome .removed members,
    withOutcome .failed members⟩

def refreshAll (catalog : Catalog) (source : Source) (entityType : String) :
    Action Index Report := do
  let stale ← query fun store => store.allStaleFor entityType
  let members ← Action.each (refresh catalog source entityType)
    (stale.map fun entry => entry.owner.id)
  let report := reportOf entityType members
  emit (.setAttribute "record_search.reindexed" (.int report.reindexed.length))
  emit (.setAttribute "record_search.failed" (.int report.failed.length))
  return report

/-- Builds every stale entry of a type and reports what became of each. -/
def reindexAll (catalog : Catalog) (source : Source) (entityType : String) :
    Action Index Report := do
  let report ← bound [("operation", .str "reindex"), ("entity_type", .str entityType)]
    (span "record_search.reindex_all" [("record_search.entity_type", .str entityType)]
      (refreshAll catalog source entityType))
  if !report.isNoop then
    note (.batchDone entityType report.reindexed.length report.removed.length
      report.failed.length)
  return report

end ShadowIndex.Index
