import ShadowIndex.Index.Change
import ShadowIndex.Index.Search

/-!
Contract: a search service, what has been declared and the index built from it.

Owns:
- `Service`, its start from settings, and its restart on the same store;
- declarations of searchable fields and of dependencies.

Does not own: the host, or who tells the service of changes.
-/

set_option autoImplicit false

namespace ShadowIndex

/-- What is given as the source of a declared field: an extractor, the name that an alias reads,
or something that is neither. -/
inductive FieldRule where
  | extractor (rule : Extractor)
  | alias (target : String)
  | unusable
deriving Inhabited

/-- A service over the records of a host. -/
structure Service where
  catalog : Catalog
  index : Index
deriving Inhabited

namespace Service

/-- The store that settings ask for. -/
def storeFor (settings : Settings) : Store :=
  match settings.backend, settings.path with
  | .sqlite, some path => .database (.create path)
  | _, _ => Store.emptyMemory

def openingNotes : Store → List Event
  | .memory _ => []
  | .database table => [.note (.databaseOpened table.location)]

/-- An index on a store, with nothing locked. -/
def indexOn (store : Store) (trail : Trail) (streams : Streams) : Index :=
  ⟨store, .empty, (openingNotes store).foldl Trail.record trail, streams⟩

/-- A service with nothing declared and nothing indexed. -/
def start (settings : Settings) (trail : Trail) : Service :=
  ⟨.fresh settings, indexOn (storeFor settings) trail .none⟩

/-- Closes the service and starts another with the same declarations. Entries in memory are
lost; locks are new; streams that were read stay so. -/
def restart (service : Service) : Service :=
  let index := service.index
  { service with index := indexOn index.store.restart index.trail index.streams }

def close (service : Service) : Service :=
  { service with index := { service.index with store := service.index.store.close } }

def onIndex {α : Type} (action : Catalog → Action Index α) : Action Service α := fun service =>
  let (outcome, index) := action service.catalog service.index
  (outcome, { service with index := index })

def setRegistry (registry : Registry) (service : Service) : Service :=
  { service with catalog := { service.catalog with registry := registry } }

/-- Declares a field or an alias in a registry. -/
def declareIn (registry : Registry) (entityType name : Value) (inFullText : Bool) :
    FieldRule → Except Failure (String × Field) × Registry
  | .extractor rule => registry.defineField entityType name (some rule) inFullText
  | .alias target => registry.defineQualifier entityType name (.str target)
  | .unusable => registry.defineField entityType name none inFullText

/-- What is noted of a declaration: a replacement, and the field or alias. -/
def declarationNotes (registry : Registry) (entityType name : String) (field : Field) :
    List Note :=
  let replaced := if (registry.get entityType).fields.contains name then
    [Note.fieldReplaced entityType name] else []
  match field.aliasOf? with
  | none => replaced ++ [.fieldDefined entityType name]
  | some target => replaced ++ [.qualifierDefined entityType name target]

/-- Declares a searchable field of a type and flags the entries of the type. -/
def define (entityType name : Value) (rule : FieldRule) (inFullText : Bool) :
    Action Service (String × Field) := fun service =>
  let before := service.catalog.registry
  let (outcome, registry) := declareIn before entityType name inFullText rule
  let service := service.setRegistry registry
  match outcome, entityType with
  | .ok (name, field), .str entityType =>
      let marking : Action Service Unit := onIndex fun _ => do
        let _ ← Action.each Index.note (declarationNotes before entityType name field)
        Index.markType entityType
      match marking service with
      | (.ok (), after) => (.ok (name, field), after)
      | (.error failure, after) => (.error failure, after)
  | outcome, _ => (outcome, service)

/-- Declares that the texts of one type hold data of another. -/
def depend (dependent source : Value) (relation : Option String) :
    Action Service Dependency := fun service =>
  let before := service.catalog.dependencies
  let (outcome, graph) := before.declare dependent source relation
  let service := { service with catalog := { service.catalog with dependencies := graph } }
  match outcome with
  | .error failure => (.error failure, service)
  | .ok edge =>
      if before.contains edge then (.ok edge, service)
      else
        (.ok edge,
          { service with index := service.index.record (.note (.dependencyDeclared edge)) })

end Service

end ShadowIndex
