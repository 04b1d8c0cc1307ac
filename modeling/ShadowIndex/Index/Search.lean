import ShadowIndex.Index.Match
import ShadowIndex.Index.Reindex

/-!
Contract: searches, answered from entries that are up to date.

Owns:
- `search`: the candidates of the host, in its order, whose up-to-date entry matches every
  term; a blank query gives all candidates, an unknown qualifier none;
- `rebuildAll`, which derives all entries of a type from the host.

Main rule: where stale entries are not rebuilt, a record with a stale entry is no result.

Does not own: which candidates there are.
-/

set_option autoImplicit false

namespace ShadowIndex.Index

/-- The query that a text denotes; no text is an empty one. -/
def parse (text : Option String) : Action Index Query := do
  let written := text.getD ""
  let query := Query.parse written
  let _ ← Action.each
    (fun token =>
      match token with
      | Token.unclosed rest => note (.queryUnclosed rest)
      | _ => pure ())
    (Token.scan written.toList)
  note (.queryParsed text query.terms.length)
  return query

/-- The entry of a candidate if it can be served up to date. -/
def freshEntry (catalog : Catalog) (source : Source) (entityType : String) (id : Value) :
    Action Index (Option Entry) := do
  let stored ← entry entityType id
  match stored.filter fun entry => !entry.content.stale with
  | some entry => return some entry
  | none =>
      if !catalog.settings.reindexOnSearch then return none
      match ← (reindexOne catalog source entityType id).attempt with
      | .ok entry => return entry
      | .error failure =>
          if isRebuildFailure failure then
            note (.excluded entityType id failure)
            return none
          else Action.fail failure

/-- A candidate, if its up-to-date entry matches. -/
def hit (catalog : Catalog) (source : Source) (entityType : String) (query : Query) (id : Value) :
    Action Index (Option Value) := do
  let fresh ← freshEntry catalog source entityType id
  return if fresh.any ((catalog.registry.get entityType).accepts query) then some id else none

/-- The ids found, and, where entries were looked at, the number of candidates. -/
structure Found where
  ids : List Value
  examined : Option Nat
deriving Inhabited

/-- The results among the candidates of a query that is not blank. -/
def examine (catalog : Catalog) (source : Source) (entityType : String) (query : Query)
    (candidates : List Value) : Action Index Found := do
  let definition := catalog.registry.get entityType
  if definition.isEmpty then
    note (.nothingDefined entityType query)
    return ⟨[], none⟩
  let unknown := query.qualifiers.filter fun name => !definition.knows name
  if !unknown.isEmpty then
    note (.qualifiersUnknown unknown entityType query)
    return ⟨[], none⟩
  if catalog.settings.reindexOnSearch then
    let _ ← reindexAll catalog source entityType
  let hits ← Action.each (hit catalog source entityType query) candidates
  let ids := hits.filterMap id
  emit (.setAttribute "record_search.results" (.int ids.length))
  return ⟨ids, some candidates.length⟩

def find (catalog : Catalog) (source : Source) (entityType : String) (query : Query)
    (scope : Scope) : Action Index Found := do
  let candidates ← reading (source.candidates entityType scope)
  if query.isBlank then return ⟨candidates, none⟩
  examine catalog source entityType query candidates

/-- The ids of the records of a type that match a query text, in the host's order. -/
def search (catalog : Catalog) (source : Source) (entityType : String) (text : Option String)
    (scope : Scope) : Action Index (List Value) := do
  let query ← parse text
  count .queries
    [("blank", if query.isBlank then "true" else "false"), ("entity_type", entityType)] 1
  let found ← bound [("operation", .str "search"), ("entity_type", .str entityType)]
    (timed [("entity_type", entityType)]
      (span "record_search.search"
        [("record_search.entity_type", .str entityType),
         ("record_search.terms", .int query.terms.length)]
        (find catalog source entityType query scope)))
  match found.examined with
  | some candidates => note (.searched entityType query found.ids.length candidates)
  | none => pure ()
  return found.ids

/-- The records that match a query text, as they are now. -/
def searchRecords (catalog : Catalog) (source : Source) (entityType : String)
    (text : Option String) (scope : Scope) : Action Index (List Snapshot) := do
  let ids ← search catalog source entityType text scope
  let snapshots ← reading (Action.each (source.snapshot entityType) ids)
  return snapshots.filterMap id

/-! ## Maintenance -/

/-- Removes the entry and the lock of an owner that the host does not have. -/
def dropOrphan (entityType : String) (id : Id) : Action Index Unit := do
  let _ ← holding entityType id.value (delete entityType id.value)
  discardLock entityType id.value

/-- Derives every entry of a type from the host: entries without a record go, every record gets
a stale entry, and stale entries are built. -/
def rebuildAll (catalog : Catalog) (source : Source) (entityType : String) :
    Action Index Report := do
  let candidates ← reading (source.candidates entityType .all)
  let known ← Action.lift (candidates.mapM Value.key)
  let owners ← query fun store => store.ownerIds entityType
  let orphans := owners.filter fun id => !known.contains id.key
  let _ ← Action.each (dropOrphan entityType) orphans
  let _ ← Action.each (fun id => holding entityType id (ensureStale entityType id)) candidates
  let report ← reindexAll catalog source entityType
  return { report with removed := orphans ++ report.removed }

end ShadowIndex.Index
