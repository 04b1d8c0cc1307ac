import ShadowIndex.Action
import ShadowIndex.Record.Snapshot
import ShadowIndex.Value.Key
import ShadowIndex.Value.Stream

/-!
Contract: what the index asks of those who keep the records.

Owns:
- `Scope`, which of the candidates are wanted;
- `LookUps`, a record as it is now, what a relation reaches from it, and the candidates of a type;
  snapshots and the associates of snapshots follow from them;
- `Source`, look-ups that may fail, and that need not give the same each time.

Does not own: where records are kept.
-/

set_option autoImplicit false

namespace ShadowIndex

/-! ## Scopes -/

/-- Which of the candidates a caller wants: those whose fields are equal to given values, or those
that pass a test, which may fail. A value that is neither is of no use. -/
inductive Scope where
  | all
  | equal (conditions : List (Value × Value))
  | passing (test : Fields → Except Failure Bool)
  | value (filter : Value)
deriving Inhabited

namespace Scope

def has (name : String) : Scope := passing fun fields => .ok (fields.contains name)

/-- The records with a text in a field that starts in a given way. -/
def startsWith (name start : String) : Scope :=
  passing fun fields =>
    match fields.find? name with
    | none => .error (.missingField name)
    | some (.str text) => .ok (start.toList.isPrefixOf text.toList)
    | some (.bytes _) | some (.buffer _) => .error (.use "str" .octetsStart)
    | some other => .error (.noMember other.typeName "startswith")

end Scope

/-! ## Look-ups -/

def Host.checkedRef (entityType : String) (id : Value) : Except Failure Ref :=
  (Ref.check (.str entityType) id).mapError (Failure.invalid Ref.subject)

/-- What can be asked of those who keep the records: the fields of a record, if it is there, the
records that a relation reaches from one, and the ids of a type in a scope. -/
structure LookUps (m : Type → Type) where
  fetch : String → Value → m (Option Fields)
  resolve : String → Value → String → m (List Ref)
  candidates : String → Scope → m (List Value)

namespace LookUps

variable {m : Type → Type} [Monad m] [MonadLiftT (Except Failure) m]

/-- A record as extractors see it, if it is there. -/
def snapshot (lookUps : LookUps m) (entityType : String) (id : Value) : m (Option Snapshot) := do
  match ← lookUps.fetch entityType id with
  | none => return none
  | some fields => return some ⟨← liftM (Host.checkedRef entityType id), fields⟩

/-- The snapshots of the records that a relation reaches. -/
def associated (lookUps : LookUps m) (snapshot : Snapshot) (name : String) :
    m (List Snapshot) := do
  let refs ← lookUps.resolve snapshot.ref.entityType snapshot.ref.id.value name
  let found ← refs.mapM fun ref => lookUps.snapshot ref.entityType ref.id.value
  return found.filterMap id

/-- Records as extractors see them. -/
def view (lookUps : LookUps m) : RecordReader m Snapshot where
  snapshot := id
  associated := lookUps.associated

end LookUps

/-- Look-ups that may fail, and that need not give the same each time. -/
abbrev Source := LookUps (Action Streams)

/-- Look-ups that always give the same. -/
def LookUps.steady (lookUps : LookUps (Except Failure)) : Source where
  fetch entityType id := Action.lift (lookUps.fetch entityType id)
  resolve entityType id name := Action.lift (lookUps.resolve entityType id name)
  candidates entityType scope := Action.lift (lookUps.candidates entityType scope)

instance : Inhabited Source :=
  ⟨LookUps.steady ⟨fun _ _ => .ok none, fun _ _ _ => .ok [], fun _ _ => .ok []⟩⟩

end ShadowIndex
