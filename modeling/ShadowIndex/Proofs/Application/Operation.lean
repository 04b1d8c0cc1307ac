import ShadowIndex.Application
import ShadowIndex.Proofs.Host.Commits
import ShadowIndex.Proofs.Index.Tracing
import ShadowIndex.Proofs.Index.Upkeep
import ShadowIndex.Proofs.Run

/-!
Contract: what is asked of an application while it runs.

Owns:
- `Operation`, with the states that it leads to, alone and in a row;
- `Application.IsReady`, what all operations rely on, and `Operation.Fits`, what is asked of each.

Does not own: what an operation does.
-/

set_option autoImplicit false

namespace ShadowIndex

/-! ## Operations -/

/-- What is asked of an application while it runs. -/
inductive Operation where
  | create (entityType : String) (fields : Fields)
  | update (entityType : String) (id : Id) (changes : Fields)
  | destroy (entityType : String) (id : Id)
  | define (entityType name : Value) (rule : FieldRule) (inFullText : Bool)
  | search (entityType : String) (text : Option String) (scope : Scope)
  | reindex (entityType : String)
  | rebuild (entityType : String)

/-- An action whose value is not looked at. -/
def Action.discarding {σ α : Type} (action : Action σ α) : Action σ Unit := fun state =>
  let (outcome, after) := action state
  (outcome.map fun _ => (), after)

namespace Application

abbrev catalog (application : Application) : Catalog := application.service.catalog

abbrev store (application : Application) : Store := application.service.index.store

end Application

namespace Operation

def run : Operation → Action Application Unit
  | create entityType fields => .discarding (Application.create entityType fields)
  | update entityType id changes => .discarding (Application.update entityType id.value changes)
  | destroy entityType id => .discarding (Application.destroy entityType id.value)
  | define entityType name rule inFullText =>
      .discarding (Application.onService (Service.define entityType name rule inFullText))
  | search entityType text scope =>
      .discarding (Application.onIndex fun catalog source =>
        Index.search catalog source entityType text scope)
  | reindex entityType =>
      .discarding (Application.onIndex fun catalog source =>
        Index.reindexAll catalog source entityType)
  | rebuild entityType =>
      .discarding (Application.onIndex fun catalog source =>
        Index.rebuildAll catalog source entityType)

/-- The application after an operation, whether or not the operation failed. -/
def after (operation : Operation) (application : Application) : Application :=
  (operation.run application).2

/-- Whether the program goes on after an operation. -/
def GoesOn (operation : Operation) (application : Application) : Prop :=
  ∀ failure, (operation.run application).1 = .error failure → failure.isEnding = false

/-- The application after operations in a row. -/
def afterAll (application : Application) (operations : List Operation) : Application :=
  Run.afterAll after application operations

/-- Whether something holds of every operation of a run, each in the state that it starts from. -/
def Along (property : Application → Operation → Prop) (application : Application)
    (operations : List Operation) : Prop :=
  Run.Along after property application operations

/-- What an operation may ask: records get ids that the index takes, and fields that are steady and
hold references in foreign keys; fields declared for the type are traced. -/
def Fits (ids : Id → Prop) (entityType : String) (application : Application) : Operation → Prop
  | create recordType fields =>
      application.host.Takes recordType fields ∧
        ∃ id : Id, ids id ∧
          (application.host.assignId recordType ((fields.find? "id").getD .nothing)).1 = id.value
  | update recordType _ changes => application.host.Takes recordType changes
  | define declaredType _ (.extractor rule) _ => declaredType = .str entityType →
      rule.IsTraced application.catalog.dependencies application.host entityType
  | _ => True

/-- An operation that fits and does not end the program. -/
def Allowed (ids : Id → Prop) (entityType : String) (application : Application)
    (operation : Operation) : Prop :=
  operation.Fits ids entityType application ∧ operation.GoesOn application

theorem eq_ok_of_isOk {operation : Operation} {application : Application}
    (done : (operation.run application).1.isOk = true) : (operation.run application).1 = .ok () := by
  cases outcome : (operation.run application).1 with
  | ok value => rfl
  | error failure =>
      rw [outcome] at done
      cases done

theorem goesOn_of_returned {operation : Operation} {application : Application}
    (returned : (operation.run application).1 = .ok ()) : operation.GoesOn application := by
  intro failure failed
  rw [returned] at failed
  cases failed

end Operation

namespace Application

/-- What all operations rely on. The service is told of changes and sees the host as it is, the host
is in order, the store holds ids that it can hold, types with fields have names, and one type is
traced. -/
structure IsReady (ids : Id → Prop) (entityType : String) (application : Application) : Prop where
  subscribed : application.listeners = [.service]
  sees : application.sight = Host.source
  orderly : application.host.IsOrderly ids
  holds : application.store.Holds ids
  named : ∀ registered, application.catalog.registry.isRegistered registered = true →
    registered ≠ ""
  traces : application.catalog.Traces application.host entityType

theorem IsReady.source_eq {ids : Id → Prop} {entityType : String} {application : Application}
    (ready : application.IsReady ids entityType) : application.source = application.host := by
  rw [source, ready.sees]

end Application

end ShadowIndex
