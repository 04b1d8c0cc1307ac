import ShadowIndex.Service

/-!
Contract: an application, a host whose committed changes are told to listeners.

Owns:
- `Application`: the host, the search service, and the listeners in order of subscription;
- creation, update and destruction of records, each told to every listener after it is
  committed, up to the first listener that fails.

Does not own: what the service does with a change.
-/

set_option autoImplicit false

namespace ShadowIndex

/-- Who is told of changes: the search service, or a recorder that keeps them. -/
inductive Listener where
  | service
  | recorder
deriving DecidableEq, Repr, Inhabited

/-- A host, its search service and its listeners. The service sees the host in some way, such as
through faults; `heard` holds what the recorder was told, the last change first. -/
structure Application where
  host : Host
  sight : Host → Source
  service : Service
  listeners : List Listener
  heard : List Change
deriving Inhabited

namespace Application

variable {α : Type}

def start (service : Service) (listeners : List Listener) : Application :=
  ⟨.empty, Host.source, service, listeners, []⟩

/-- The host as the service sees it. -/
def source (application : Application) : Source := application.sight application.host

def onService (action : Action Service α) : Action Application α := fun application =>
  let (outcome, service) := action application.service
  (outcome, { application with service := service })

/-- Runs an action on the index, with what is declared and the host as the service sees it. -/
def onIndex (action : Catalog → Source → Action Index α) : Action Application α :=
  fun application =>
    onService (Service.onIndex fun catalog => action catalog application.source) application

def note (note : Note) : Action Application Unit := onIndex fun _ _ => Index.note note

/-- Tells one listener of a change. -/
def tell (change : Change) : Listener → Action Application Unit
  | .service => onIndex fun catalog source => Index.onChange catalog source change
  | .recorder => Action.change fun application =>
      { application with heard := change :: application.heard }

def tellAll (change : Change) : Action Application Unit := do
  let application ← Action.read
  let _ ← Action.each (tell change) application.listeners

/-- Commits a change of the host; a change that fails commits nothing. -/
def commit (change : Host → Except Failure α × Host) : Action Application α :=
  fun application =>
    let (outcome, host) := change application.host
    (outcome, { application with host := host })

/-- The host after a change that gives it, or as it was. -/
def orSame (host : Host) : Except Failure (α × Host) → Except Failure α × Host
  | .ok (value, after) => (.ok value, after)
  | .error failure => (.error failure, host)

def create (entityType : String) (fields : Fields) : Action Application Value := do
  let id ← commit fun host => host.create entityType fields
  note (.recordCreated entityType id)
  tellAll ⟨.create, entityType, id⟩
  return id

/-- Changes fields of a record. -/
def update (entityType : String) (id : Value) (changes : Fields) :
    Action Application Fields := do
  let fields ← commit fun host => orSame host (host.update entityType id changes)
  note (.recordUpdated entityType id changes.keys)
  tellAll ⟨.update, entityType, id⟩
  return fields

/-- Destroys a record; one that is not there is not told. -/
def destroy (entityType : String) (id : Value) : Action Application Bool := do
  let destroyed ← commit fun host => orSame host (host.destroy entityType id)
  if destroyed then
    note (.recordDestroyed entityType id)
    tellAll ⟨.destroy, entityType, id⟩
  return destroyed

/-- What the recorder was told since it was last asked. -/
def takeHeard : Action Application (List Change) := fun application =>
  (.ok application.heard.reverse, { application with heard := [] })

end Application

end ShadowIndex
