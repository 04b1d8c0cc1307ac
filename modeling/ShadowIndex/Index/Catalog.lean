import ShadowIndex.Config.Settings
import ShadowIndex.Dependency
import ShadowIndex.Host.Basic
import ShadowIndex.Index.Entry
import ShadowIndex.Schema.SearchTexts

/-!
Contract: what the index is built from.

Owns: `Catalog`, all that has been declared: settings, searchable fields and dependencies; and
the texts that a record has now.

Does not own: the index itself.
-/

set_option autoImplicit false

namespace ShadowIndex

structure Catalog where
  settings : Settings
  registry : Registry
  dependencies : DependencyGraph
deriving Inhabited

namespace Catalog

def fresh (settings : Settings) : Catalog :=
  ⟨settings, .fresh settings.caseSensitive, .empty⟩

/-- What is reported of a cause that keeps an entry from being built. What ends a program is passed
on as it is. -/
def rebuildFailure (entityType : String) (id : Value) (stage : RebuildStage) (cause : Failure) :
    Failure :=
  if cause.isEnding then cause else .reindex entityType id stage cause

/-- The entry that a record has when it is built now, if the record is there. -/
def liveEntry (catalog : Catalog) (source : Source) (entityType : String) (id : Value) :
    Action Streams (Option Entry) := do
  match ← (source.snapshot entityType id).attempt with
  | .error cause => Action.fail (rebuildFailure entityType id .fetch cause)
  | .ok none => return none
  | .ok (some snapshot) =>
      match ← (catalog.registry.build source.view entityType snapshot).attempt with
      | .error cause => Action.fail (rebuildFailure entityType id .extraction cause)
      | .ok texts => return some ⟨snapshot.ref, .ofTexts texts⟩

/-- The full text that a record would be indexed with now. -/
def liveFullText (catalog : Catalog) (source : Source) (entityType : String) (id : Value) :
    Action Streams String := do
  match ← source.snapshot entityType id with
  | none => Action.fail (.recordMissing entityType id)
  | some snapshot => catalog.registry.buildFullText source.view entityType snapshot

end Catalog

end ShadowIndex
