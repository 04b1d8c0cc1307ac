import ShadowIndex.Host.Source

/-!
Contract: the host, which keeps the records that are searched.

Owns:
- `Host`: records, destroyed records, relations over foreign keys, and the next number of each
  type;
- creation, update and destruction of records;
- resolution of relations and candidates under a scope, and with them its look-ups;
- `Outage`, which look-ups fail at the moment.

Does not own: who is told of changes, or the index.
-/

set_option autoImplicit false

namespace ShadowIndex

/-- On which side of a relation the foreign key is kept. -/
inductive RelationKind where
  | belongsTo
  | hasMany
deriving DecidableEq, Repr, Inhabited

/-- An association over a foreign key: kept on the record that belongs to another, or on each
of the many that a record has. -/
structure Relation where
  target : String
  foreignKey : String
  kind : RelationKind
deriving DecidableEq, Repr, Inhabited

namespace Relation

/-- The record that a record belongs to. Without a foreign key, or with an empty one, the key is
named after the relation. -/
def belongsTo (name target : String) (foreignKey : Option String) : Relation :=
  ⟨target, (foreignKey.filter fun key => decide (key ≠ "")).getD (name ++ "_id"), .belongsTo⟩

/-- The many records that belong to a record. -/
def hasMany (target foreignKey : String) : Relation := ⟨target, foreignKey, .hasMany⟩

end Relation

/-- A record of the host, with the id under which it was created. -/
structure HostRecord where
  id : Value
  fields : Fields

instance : Inhabited HostRecord := ⟨⟨.nothing, .empty⟩⟩

/-- What fails at the moment: the records that cannot be fetched, the relations that cannot be
resolved, and the ids listed as candidates without a record. -/
structure Outage where
  records : List (String × Value)
  relations : List String
  phantoms : List (String × List Value)
deriving Inhabited

def Outage.none : Outage := ⟨[], [], []⟩

def Outage.blocks (outage : Outage) (entityType : String) (id : Value) : Bool :=
  outage.records.any fun row => row.1 == entityType && Value.same row.2 id

/-- The records of the host by type and key, in order of creation. -/
structure Host where
  records : Table (String × Key) HostRecord
  destroyed : Table (String × Key) HostRecord
  relations : Table (String × String) Relation
  counters : Table String Nat
  outage : Outage

namespace Host

def empty : Host := ⟨.empty, .empty, .empty, .empty, .none⟩

instance : Inhabited Host := ⟨empty⟩

def ofType (host : Host) (entityType : String) : List HostRecord :=
  (host.records.rows.filter fun row => decide (row.1.1 = entityType)).map Prod.snd

/-- Declares a relation of a type, in place of one that has its name. -/
def relate (host : Host) (entityType name : String) (relation : Relation) : Host :=
  { host with relations := host.relations.insert (entityType, name) relation }

/-! ## Changes -/

def nextNumber (host : Host) (entityType : String) : Nat :=
  (host.counters.find? entityType).getD 1

/-- The id for a new record: the given one, or the next number, which is then used up. -/
def assignId (host : Host) (entityType : String) (given : Value) : Value × Host :=
  if given.isNothing then
    let number := host.nextNumber entityType
    (.int number, { host with counters := host.counters.insert entityType (number + 1) })
  else (given, host)

/-- Creates a record from its fields; the field `id` is its id. -/
def create (host : Host) (entityType : String) (fields : Fields) :
    Except Failure Value × Host :=
  let (id, host) := host.assignId entityType ((fields.find? "id").getD .nothing)
  match id.key with
  | .error failure => (.error failure, host)
  | .ok key =>
      if host.records.contains (entityType, key) then
        (.error (.recordExists entityType id), host)
      else
        (.ok id,
          { host with
            records := host.records.insert (entityType, key) ⟨id, fields.erase "id"⟩
            destroyed := host.destroyed.erase (entityType, key) })

/-- The function that changes records, as messages name it, and its arguments besides changes. -/
def updateName : String := "InMemoryRecordSource.update"

def updateArguments : List String := ["self", "entity_type", "record_id"]

/-- Changes fields of a record, and gives all of them. A field that has the name of an argument
cannot be changed. -/
def update (host : Host) (entityType : String) (id : Value) (changes : Fields) :
    Except Failure (Fields × Host) := do
  if let some name := changes.keys.find? updateArguments.contains then
    throw (.argument updateName name .repeated)
  let key ← id.key
  match host.records.find? (entityType, key) with
  | none => throw (.recordMissing entityType id)
  | some record =>
      let fields := record.fields.insertAll changes.rows
      return (fields,
        { host with
          records := host.records.modify (entityType, key) fun record =>
            { record with fields := fields } })

/-- Destroys a record, and tells whether there was one. Its fields are kept for resolution. Where
there are no records, nothing is looked for. -/
def destroy (host : Host) (entityType : String) (id : Value) : Except Failure (Bool × Host) := do
  if (host.ofType entityType).isEmpty then return (false, host)
  let key ← id.key
  match host.records.find? (entityType, key) with
  | none => return (false, host)
  | some record =>
      return (true,
        { host with
          records := host.records.erase (entityType, key)
          destroyed := host.destroyed.insert (entityType, key) record })

/-! ## Look-ups -/

def fetch (host : Host) (entityType : String) (id : Value) : Except Failure (Option Fields) := do
  if host.outage.blocks entityType id then throw .hostUnavailable
  let key ← id.key
  return (host.records.find? (entityType, key)).map HostRecord.fields

/-- A record as it is now, or as it was when it was destroyed. -/
def lastKnown (host : Host) (entityType : String) (key : Key) : Option HostRecord :=
  (host.records.find? (entityType, key)).or (host.destroyed.find? (entityType, key))

/-- The record that a foreign key names, if it is there. -/
def resolveOne (host : Host) (entityType : String) (id : Value) (relation : Relation) :
    Except Failure (List Ref) := do
  let key ← id.key
  let target := ((host.lastKnown entityType key).bind fun record =>
    record.fields.find? relation.foreignKey).getD .nothing
  if target.isNothing then return []
  let targetKey ← target.key
  if host.records.contains (relation.target, targetKey) then
    return [← checkedRef relation.target target]
  else return []

/-- The records whose foreign key names a record. -/
def resolveMany (host : Host) (id : Value) (relation : Relation) : Except Failure (List Ref) :=
  let owned := (host.ofType relation.target).filter fun record =>
    Value.same ((record.fields.find? relation.foreignKey).getD .nothing) id
  owned.mapM fun record => checkedRef relation.target record.id

/-- The records that a relation reaches; an unknown relation reaches none. -/
def resolve (host : Host) (entityType : String) (id : Value) (name : String) :
    Except Failure (List Ref) :=
  if name ∈ host.outage.relations then .error .relationUnavailable
  else
    match host.relations.find? (entityType, name) with
    | none => .ok []
    | some relation =>
        match relation.kind with
        | .belongsTo => host.resolveOne entityType id relation
        | .hasMany => host.resolveMany id relation

/-- Whether a record meets one condition; an absent field counts as nothing. -/
def meets (record : HostRecord) (condition : Value × Value) : Bool :=
  let held := match condition.1 with
    | .str name => (record.fields.find? name).getD .nothing
    | _ => .nothing
  Value.same held condition.2

def admits (scope : Scope) (record : HostRecord) : Except Failure Bool :=
  match scope with
  | .all => .ok true
  | .equal conditions => .ok (conditions.all (meets record))
  | .passing test => test record.fields
  | .value filter => .error (.noMember filter.typeName "items")

/-- The members of a list that pass a test, up to the first on which it fails. -/
def filterChecked {α : Type} (test : α → Except Failure Bool) :
    List α → Except Failure (List α)
  | [] => .ok []
  | item :: rest => do
      let passes ← test item
      let others ← filterChecked test rest
      return if passes then item :: others else others

/-- The ids of the records of a type that a scope admits, in order of creation. -/
def candidates (host : Host) (entityType : String) (scope : Scope) :
    Except Failure (List Value) := do
  let admitted ← filterChecked (admits scope) (host.ofType entityType)
  let phantoms := host.outage.phantoms.flatMap fun row =>
    if row.1 = entityType then row.2 else []
  return admitted.map HostRecord.id ++ phantoms

def lookUps (host : Host) : LookUps (Except Failure) := ⟨host.fetch, host.resolve, host.candidates⟩

/-- A record as extractors see it, if it is there. -/
def snapshot (host : Host) : String → Value → Except Failure (Option Snapshot) :=
  host.lookUps.snapshot

/-- The snapshots of the records that a relation reaches. -/
def associated (host : Host) : Snapshot → String → Except Failure (List Snapshot) :=
  host.lookUps.associated

theorem snapshot_eq_fetch (host : Host) (entityType : String) (id : Value) :
    host.snapshot entityType id = (do
      match ← host.fetch entityType id with
      | none => return none
      | some fields => return some ⟨← checkedRef entityType id, fields⟩) := rfl

theorem associated_eq_resolve (host : Host) (snapshot : Snapshot) (name : String) :
    host.associated snapshot name = (do
      let refs ← host.resolve snapshot.ref.entityType snapshot.ref.id.value name
      let found ← refs.mapM fun ref => host.snapshot ref.entityType ref.id.value
      return found.filterMap id) := rfl

/-- The records of the host as extractors see them. -/
def view (host : Host) : RecordView Snapshot := host.lookUps.view

@[simp] theorem view_snapshot (host : Host) : host.view.snapshot = id := rfl

@[simp] theorem view_associated (host : Host) : host.view.associated = host.associated := rfl

/-- A host as the index asks it, which gives the same until it is changed. -/
def source (host : Host) : Source := host.lookUps.steady

instance : Coe Host Source := ⟨source⟩

end Host

end ShadowIndex
