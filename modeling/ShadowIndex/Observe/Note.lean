import ShadowIndex.Dependency
import ShadowIndex.Failure
import ShadowIndex.Query.Token

/-!
Contract: the notes a service writes to its log.

Owns:
- `Note`, everything that is worth a line, as what happened;
- the level, the channel and the text of a note.

Does not own: who reads them, or the form of a line.
-/

set_option autoImplicit false

namespace ShadowIndex

inductive Level where
  | debug
  | info
  | warning
deriving DecidableEq, Repr, Inhabited

namespace Level

def number : Level → Nat
  | debug => 10
  | info => 20
  | warning => 30

def text : Level → String
  | debug => "DEBUG"
  | info => "INFO"
  | warning => "WARNING"

end Level

inductive Note where
  | queryUnclosed (text : String)
  | queryParsed (text : Option String) (terms : Nat)
  | fieldReplaced (entityType name : String)
  | fieldDefined (entityType name : String)
  | qualifierDefined (entityType name target : String)
  | dependencyDeclared (edge : Dependency)
  | recordCreated (entityType : String) (id : Value)
  | recordUpdated (entityType : String) (id : Value) (names : List String)
  | recordDestroyed (entityType : String) (id : Value)
  | databaseOpened (location : String)
  | staysStale (failure : Failure)
  | batchDone (entityType : String) (reindexed removed failed : Nat)
  | vanishedRemoved (entityType : String) (id : Value)
  | entryDeleted (entityType : String) (id : Value)
  | eagerFailed (failure : Failure)
  | typeMarked (entityType : String) (entries : Nat)
  | dependencyIgnored (dependent entityType : String)
  | dependentsMarked (entityType : String) (id : Value) (entries : Nat) (dependent : String)
  | nothingDefined (entityType : String) (query : Query)
  | qualifiersUnknown (names : List String) (entityType : String) (query : Query)
  | searched (entityType : String) (query : Query) (results candidates : Nat)
  | excluded (entityType : String) (id : Value) (failure : Failure)
  | tracingReady (serviceName : String)
  | serviceReady (backend : String) (reindexOnSearch eagerReindex : Bool)
deriving Inhabited

namespace Note

def level : Note → Level
  | batchDone .. | typeMarked .. | tracingReady _ | serviceReady .. => .info
  | staysStale _ | eagerFailed _ | excluded .. => .warning
  | _ => .debug

def channel : Note → String
  | queryUnclosed _ | queryParsed .. => "record_search.search.query"
  | fieldReplaced .. | fieldDefined .. | qualifierDefined .. => "record_search.search.syntax"
  | dependencyDeclared _ => "record_search.search.dependencies"
  | recordCreated .. | recordUpdated .. | recordDestroyed .. =>
      "record_search.adapters.memory_record_source"
  | databaseOpened _ => "record_search.search.sqlite_index_store"
  | staysStale _ | batchDone .. | vanishedRemoved .. => "record_search.search.reindexer"
  | entryDeleted .. | eagerFailed _ | typeMarked .. | dependencyIgnored .. | dependentsMarked ..
  | nothingDefined .. | qualifiersUnknown .. | searched .. | excluded .. =>
      "record_search.service_layer.search_service"
  | tracingReady _ => "record_search.observability.tracing"
  | serviceReady .. => "record_search.bootstrap"

def truthText (truth : Bool) : String := (Value.bool truth).literal

def listText (texts : List String) : String := (Value.list (texts.map Value.str)).literal

/-- What a note says, with the guide that reports on failed checks refer to. A duration is left
open. -/
def text (guide : String) : Note → String
  | queryUnclosed text =>
      "Unterminated quote in query, treating " ++ Text.quoted text ++ " as a word"
  | queryParsed text terms =>
      "Parsed query " ++ ((text.map Value.str).getD .nothing).literal ++ " into "
        ++ toString terms ++ " terms"
  | fieldReplaced entityType name => "Replacing search field " ++ entityType ++ "." ++ name
  | fieldDefined entityType name => "Defined search field " ++ entityType ++ "." ++ name
  | qualifierDefined entityType name target =>
      "Defined qualifier " ++ entityType ++ "." ++ name ++ " -> " ++ target
  | dependencyDeclared edge =>
      "Declared search dependency " ++ edge.dependent ++ " -> " ++ edge.source ++ " via "
        ++ edge.relation
  | recordCreated entityType id => "Created " ++ Failure.recordText entityType id
  | recordUpdated entityType id names =>
      "Updated " ++ Failure.recordText entityType id ++ ": "
        ++ listText (names.mergeSort (· ≤ ·))
  | recordDestroyed entityType id => "Destroyed " ++ Failure.recordText entityType id
  | databaseOpened location => "Opened SQLite index store at " ++ location
  | staysStale failure => failure.message guide ++ "; entry stays stale"
  | batchDone entityType reindexed removed failed =>
      "Reindexed " ++ entityType ++ ": " ++ toString reindexed ++ " rebuilt, "
        ++ toString removed ++ " removed, " ++ toString failed ++ " failed in <t>s"
  | vanishedRemoved entityType id =>
      "Removed index entry of vanished record " ++ Failure.recordText entityType id
  | entryDeleted entityType id => "Deleted index entry " ++ Failure.recordText entityType id
  | eagerFailed failure => "Eager reindex failed, entry stays stale: " ++ failure.message guide
  | typeMarked entityType entries =>
      "Search syntax of " ++ entityType ++ " changed, " ++ toString entries
        ++ " entries marked stale"
  | dependencyIgnored dependent entityType =>
      "Ignoring dependency " ++ dependent ++ " -> " ++ entityType ++ " without search syntax"
  | dependentsMarked entityType id entries dependent =>
      Failure.recordText entityType id ++ " changed, " ++ toString entries ++ " " ++ dependent
        ++ " entries marked stale"
  | nothingDefined entityType query =>
      "No search syntax for " ++ entityType ++ ", query " ++ Text.quoted query.render
        ++ " matches nothing"
  | qualifiersUnknown names entityType query =>
      "Unknown qualifiers " ++ listText names ++ " for " ++ entityType ++ ", query "
        ++ Text.quoted query.render ++ " matches nothing"
  | searched entityType query results candidates =>
      "Search " ++ entityType ++ " " ++ Text.quoted query.render ++ ": " ++ toString results
        ++ " of " ++ toString candidates ++ " candidates"
  | excluded entityType id failure =>
      "Excluding " ++ Failure.recordText entityType id ++ " from results: " ++ failure.message guide
  | tracingReady serviceName => "Tracing initialized for service: " ++ serviceName
  | serviceReady backend reindexOnSearch eagerReindex =>
      "Search service ready (backend=" ++ backend ++ ", reindex_on_search="
        ++ truthText reindexOnSearch ++ ", eager_reindex=" ++ truthText eagerReindex ++ ")"

end Note

end ShadowIndex
