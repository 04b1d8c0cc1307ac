import Mathlib.Data.List.Basic
import ShadowIndex.Proofs.Host.Keyed
import ShadowIndex.Proofs.Schema.Steady

/-!
Contract: what relations reach in a host whose records are in order.

Owns:
- `Host.IsOrderly`: records under their ids, foreign keys that hold ids or nothing, steady fields;
- `Host.fieldOf`, what a record holds under a name;
- the records that each kind of relation reaches (`mem_resolve_belongsTo`, `mem_resolve_hasMany`),
  and that no resolution fails.

Does not own: changes of records.
-/

set_option autoImplicit false

namespace ShadowIndex

/-- An id or nothing, as a foreign key holds it. -/
def Value.IsReference (value : Value) : Prop := value = .nothing ∨ ∃ id : Id, value = id.value

theorem Id.value_ne_nothing (id : Id) : id.value ≠ .nothing := by
  cases id <;> simp [Id.value]

namespace Host

/-! ## Snapshots -/

theorem checkedRef_value_inv {entityType : String} {id : Id} {ref : Ref}
    (checked : checkedRef entityType id.value = .ok ref) : ref = ⟨entityType, id⟩ := by
  obtain ⟨isType, isId⟩ := checkedRef_inv checked
  rw [Value.checkId_value] at isId
  obtain ⟨refType, refId⟩ := ref
  cases isType
  cases isId
  rfl

theorem checkedRef_of_checkId {entityType : String} (named : entityType ≠ "") {value : Value}
    {id : Id} (checked : value.checkId ["1"] = .ok id) :
    checkedRef entityType value = .ok ⟨entityType, id⟩ := by
  have notEmpty : entityType.isEmpty = false := by simpa using named
  have both : Ref.check (.str entityType) value = .ok ⟨entityType, id⟩ := by
    simp [Ref.check, Value.checkName, Value.checkText, bind, Except.bind, notEmpty, Checked.both,
      Except.map, checked]
  rw [checkedRef, both]
  rfl

theorem checkedRef_value {entityType : String} (named : entityType ≠ "") (id : Id) :
    checkedRef entityType id.value = .ok ⟨entityType, id⟩ :=
  checkedRef_of_checkId named (Value.checkId_value ["1"] id)

/-- The owner of a snapshot is what its type and its id were checked as. -/
theorem checkedRef_of_snapshot {host : Host} {entityType : String} {id : Value}
    {snapshot : Snapshot} (found : host.snapshot entityType id = .ok (some snapshot)) :
    checkedRef entityType id = .ok snapshot.ref := by
  rw [Host.snapshot_eq_fetch] at found
  cases fetched : host.fetch entityType id with
  | error failure => simp [fetched, bind, Except.bind] at found
  | ok fields? =>
      cases fields? with
      | none => simp [fetched, bind, Except.bind, pure, Except.pure] at found
      | some fields =>
          cases checked : checkedRef entityType id with
          | error failure => simp [fetched, checked, bind, Except.bind] at found
          | ok ref =>
              simp only [fetched, checked, bind, Except.bind, pure, Except.pure, Except.ok.injEq,
                Option.some.injEq] at found
              subst found
              rfl

/-- A snapshot bears the name under which it was looked for. -/
theorem ref_of_snapshot {host : Host} {entityType : String} {id : Id} {snapshot : Snapshot}
    (found : host.snapshot entityType id.value = .ok (some snapshot)) :
    snapshot.ref = ⟨entityType, id⟩ :=
  checkedRef_value_inv (checkedRef_of_snapshot found)

/-! ## Hosts in order -/

/-- Whether records of a type keep the foreign key of some relation under a name. -/
def IsForeignKey (host : Host) (entityType field : String) : Prop :=
  ∃ name relation, host.relations.find? name = some relation ∧ relation.foreignKey = field ∧
    entityType = match relation.kind with
      | .belongsTo => name.1
      | .hasMany => relation.target

/-- What a record holds in a field; an absent field counts as nothing. -/
def held (record : HostRecord) (field : String) : Value := (record.fields.find? field).getD .nothing

/-- A host that serves every request, whose records are kept under ids of a certain kind. -/
structure IsOrderly (host : Host) (ids : Id → Prop) : Prop where
  serving : host.outage = .none
  named : ∀ name relation, host.relations.find? name = some relation → relation.target ≠ ""
  keyed : ∀ entityType key record, host.records.find? (entityType, key) = some record →
    ∃ id : Id, record.id = id.value ∧ key = id.key ∧ ids id
  referring : ∀ entityType key record,
    host.records.find? (entityType, key) = some record ∨
      host.destroyed.find? (entityType, key) = some record →
    ∀ field, host.IsForeignKey entityType field → (held record field).IsReference
  steady : ∀ name record, host.records.find? name = some record →
    ∀ field value, record.fields.find? field = some value → value.IsSteady

/-- What the record of an owner holds in a field. -/
def fieldOf (host : Host) (owner : Ref) (field : String) : Value :=
  ((host.records.find? (owner.entityType, owner.id.key)).map fun record =>
    held record field).getD .nothing

/-- What the last known record of an owner holds in a field. -/
def lastFieldOf (host : Host) (owner : Ref) (field : String) : Value :=
  ((host.lastKnown owner.entityType owner.id.key).map fun record => held record field).getD .nothing

theorem held_of_bind (record? : Option HostRecord) (field : String) :
    (record?.bind fun record => record.fields.find? field).getD .nothing =
      (record?.map fun record => held record field).getD .nothing := by
  cases record? <;> rfl

variable {host : Host} {ids : Id → Prop} {entityType name : String} {id : Id} {relation : Relation}

/-- Where nothing fails, a record that is there can be seen, if it can be named. -/
theorem snapshot_of_serving (serving : host.outage = .none) :
    host.snapshot entityType id.value =
      match host.records.find? (entityType, id.key) with
      | none => .ok none
      | some record => (checkedRef entityType id.value).map fun ref => some ⟨ref, record.fields⟩ := by
  have unblocked : host.outage.blocks entityType id.value = false := by
    rw [serving]
    rfl
  simp only [Host.snapshot_eq_fetch, fetch, unblocked, Value.key_value, bind, Except.bind, pure,
    Except.pure, Bool.false_eq_true, if_false]
  cases host.records.find? (entityType, id.key) with
  | none => rfl
  | some record => cases checkedRef entityType id.value <;> simp [Except.map]

namespace IsOrderly

theorem snapshot_eq (orderly : host.IsOrderly ids) :
    host.snapshot entityType id.value =
      match host.records.find? (entityType, id.key) with
      | none => .ok none
      | some record => (checkedRef entityType id.value).map fun ref => some ⟨ref, record.fields⟩ :=
  snapshot_of_serving orderly.serving

theorem resolve_eq (orderly : host.IsOrderly ids) (owner : Value) :
    host.resolve entityType owner name =
      match host.relations.find? (entityType, name) with
      | none => .ok []
      | some relation =>
          match relation.kind with
          | .belongsTo => host.resolveOne entityType owner relation
          | .hasMany => host.resolveMany owner relation := by
  have reachable : name ∉ host.outage.relations := by
    rw [orderly.serving]
    simp [Outage.none]
  unfold Host.resolve
  exact if_neg reachable

theorem lastFieldOf_isReference (orderly : host.IsOrderly ids) {field : String}
    (foreign : host.IsForeignKey entityType field) (id : Id) :
    (host.lastFieldOf ⟨entityType, id⟩ field).IsReference := by
  unfold lastFieldOf lastKnown
  cases present : host.records.find? (entityType, id.key) with
  | some record => exact orderly.referring entityType id.key record (Or.inl present) field foreign
  | none =>
      cases gone : host.destroyed.find? (entityType, id.key) with
      | none => exact Or.inl rfl
      | some record => exact orderly.referring entityType id.key record (Or.inr gone) field foreign

/-- A record belongs to the one that its foreign key names, if that one is there. -/
theorem mem_resolve_belongsTo (orderly : host.IsOrderly ids)
    (declared : host.relations.find? (entityType, name) = some relation)
    (kind : relation.kind = .belongsTo) (id : Id) :
    ∃ refs, host.resolve entityType id.value name = .ok refs ∧
      ∀ ref, ref ∈ refs ↔ ref.entityType = relation.target ∧
        host.lastFieldOf ⟨entityType, id⟩ relation.foreignKey = ref.id.value ∧
        (host.records.find? (relation.target, ref.id.key)).isSome = true := by
  have foreign : host.IsForeignKey entityType relation.foreignKey :=
    ⟨_, relation, declared, rfl, by rw [kind]⟩
  have reference := orderly.lastFieldOf_isReference foreign id
  have resolved : host.resolve entityType id.value name =
      (do
        let target := host.lastFieldOf ⟨entityType, id⟩ relation.foreignKey
        if target.isNothing then return []
        let targetKey ← target.key
        if host.records.contains (relation.target, targetKey) then
          return [← checkedRef relation.target target]
        else return []) := by
    rw [orderly.resolve_eq, declared]
    simp only [kind, resolveOne, Value.key_value, held_of_bind]
    rfl
  rw [resolved]
  rcases reference with nothing | ⟨target, found⟩
  · refine ⟨[], by simp [nothing, Value.isNothing, pure, Except.pure], ?_⟩
    intro ref
    simp only [List.not_mem_nil, nothing, false_iff, not_and]
    intro _ impossible
    exact absurd impossible.symm (Id.value_ne_nothing ref.id)
  · have something : target.value.isNothing = false := by cases target <;> rfl
    by_cases present : host.records.contains (relation.target, target.key) = true
    · have checked := checkedRef_value (orderly.named _ _ declared) target
      refine ⟨[⟨relation.target, target⟩], ?_, ?_⟩
      · simp [found, something, present, checked, bind, Except.bind, pure, Except.pure]
      · rintro ⟨refType, refId⟩
        rw [Table.contains_eq_isSome] at present
        simp only [List.mem_singleton, Ref.mk.injEq, found]
        constructor
        · rintro ⟨rfl, rfl⟩
          exact ⟨rfl, rfl, present⟩
        · rintro ⟨rfl, same, -⟩
          exact ⟨rfl, (Id.value_injective same).symm⟩
    · refine ⟨[], ?_, ?_⟩
      · simp [found, something, present, bind, Except.bind, pure, Except.pure]
      · rintro ⟨refType, refId⟩
        rw [Table.contains_eq_isSome] at present
        simp only [List.not_mem_nil, found, false_iff, not_and]
        rintro rfl same
        rw [← Id.value_injective same]
        exact present

theorem mapM_checkedRef {target : String} (named : target ≠ "") {records : List HostRecord}
    (keyed : ∀ record ∈ records, ∃ id : Id, record.id = id.value) :
    ∃ refs, records.mapM (fun record => checkedRef target record.id) = .ok refs ∧
      ∀ ref, ref ∈ refs ↔ ref.entityType = target ∧
        ∃ record ∈ records, record.id = ref.id.value := by
  induction records with
  | nil => exact ⟨[], rfl, by simp⟩
  | cons record rest inductionHypothesis =>
      obtain ⟨id, isId⟩ := keyed record (by simp)
      obtain ⟨refs, resolved, isMember⟩ := inductionHypothesis fun other member =>
        keyed other (by simp [member])
      refine ⟨⟨target, id⟩ :: refs, ?_, ?_⟩
      · simp [List.mapM_cons, isId, checkedRef_value named, resolved, bind, Except.bind, pure,
          Except.pure]
      · rintro ⟨refType, refId⟩
        simp only [List.mem_cons, Ref.mk.injEq, isMember, exists_eq_or_imp, isId]
        constructor
        · rintro (⟨rfl, rfl⟩ | ⟨rfl, other⟩)
          · exact ⟨rfl, Or.inl rfl⟩
          · exact ⟨rfl, Or.inr other⟩
        · rintro ⟨rfl, same | other⟩
          · exact Or.inl ⟨rfl, (Id.value_injective same).symm⟩
          · exact Or.inr ⟨rfl, other⟩

/-- A record has the ones whose foreign key names it. -/
theorem mem_resolve_hasMany (orderly : host.IsOrderly ids)
    (declared : host.relations.find? (entityType, name) = some relation)
    (kind : relation.kind = .hasMany) (id : Id) :
    ∃ refs, host.resolve entityType id.value name = .ok refs ∧
      ∀ ref, ref ∈ refs ↔ ref.entityType = relation.target ∧
        (host.records.find? (relation.target, ref.id.key)).isSome = true ∧
        host.fieldOf ref relation.foreignKey = id.value := by
  have foreign : host.IsForeignKey relation.target relation.foreignKey :=
    ⟨_, relation, declared, rfl, by rw [kind]⟩
  have resolved : host.resolve entityType id.value name =
      ((host.ofType relation.target).filter fun record =>
        Value.same (held record relation.foreignKey) id.value).mapM
          fun record => checkedRef relation.target record.id := by
    rw [orderly.resolve_eq, declared]
    simp only [kind]
    rfl
  have keyed : ∀ record ∈ (host.ofType relation.target).filter (fun record =>
      Value.same (held record relation.foreignKey) id.value), ∃ id : Id, record.id = id.value := by
    intro record member
    obtain ⟨key, found⟩ := (mem_ofType_iff record).1 (List.mem_filter.1 member).1
    obtain ⟨id, isId, -, -⟩ := orderly.keyed _ key record found
    exact ⟨id, isId⟩
  obtain ⟨refs, mapped, isMember⟩ := mapM_checkedRef (orderly.named _ _ declared) keyed
  refine ⟨refs, resolved.trans mapped, ?_⟩
  rintro ⟨refType, refId⟩
  rw [isMember]
  simp only [List.mem_filter, mem_ofType_iff, Option.isSome_iff_exists]
  constructor
  · rintro ⟨rfl, record, ⟨⟨key, found⟩, same⟩, isId⟩
    obtain ⟨other, isOther, rfl, -⟩ := orderly.keyed _ key record found
    obtain rfl : other = refId := Id.value_injective (isOther.symm.trans isId)
    refine ⟨rfl, ⟨record, found⟩, ?_⟩
    rcases orderly.referring _ _ record (Or.inl found) _ foreign with nothing | ⟨parent, isParent⟩
    · rw [nothing] at same
      cases id <;> simp [Id.value, Value.same, Value.sameScalar] at same
    · rw [isParent, Value.same_value_iff] at same
      simp [fieldOf, found, isParent, same]
  · rintro ⟨rfl, ⟨record, found⟩, same⟩
    obtain ⟨other, isOther, isKey, -⟩ := orderly.keyed _ _ record found
    obtain rfl : other = refId := Id.key_injective isKey.symm
    refine ⟨rfl, record, ⟨⟨_, found⟩, ?_⟩, isOther⟩
    have isParent : held record relation.foreignKey = id.value := by
      simpa [fieldOf, found] using same
    rw [isParent, Value.same_value_iff]

/-- No resolution fails, and what it reaches is there. -/
theorem resolves (orderly : host.IsOrderly ids) (entityType : String) (id : Id) (name : String) :
    ∃ refs, host.resolve entityType id.value name = .ok refs ∧ ∀ ref ∈ refs, ids ref.id := by
  have isKnown {ref : Ref}
      (present : (host.records.find? (ref.entityType, ref.id.key)).isSome = true) : ids ref.id := by
    obtain ⟨record, found⟩ := Option.isSome_iff_exists.1 present
    obtain ⟨other, -, isKey, known⟩ := orderly.keyed _ _ record found
    rwa [Id.key_injective isKey]
  cases declared : host.relations.find? (entityType, name) with
  | none => exact ⟨[], by rw [orderly.resolve_eq, declared], by simp⟩
  | some relation =>
      cases kind : relation.kind with
      | belongsTo =>
          obtain ⟨refs, resolved, isMember⟩ := orderly.mem_resolve_belongsTo declared kind id
          refine ⟨refs, resolved, fun ref member => isKnown ?_⟩
          obtain ⟨isTarget, -, present⟩ := (isMember ref).1 member
          rwa [isTarget]
      | hasMany =>
          obtain ⟨refs, resolved, isMember⟩ := orderly.mem_resolve_hasMany declared kind id
          refine ⟨refs, resolved, fun ref member => isKnown ?_⟩
          obtain ⟨isTarget, present, -⟩ := (isMember ref).1 member
          rwa [isTarget]

theorem isKeyed (orderly : host.IsOrderly ids) : host.IsKeyed ids :=
  ⟨orderly.keyed, by rw [orderly.serving]; rfl⟩

/-- All candidates are records with known ids, in whichever scope. -/
theorem exists_id_of_candidates (orderly : host.IsOrderly ids) {scope : Scope}
    {candidates : List Value} (listed : host.candidates entityType scope = .ok candidates)
    {candidate : Value} (member : candidate ∈ candidates) :
    ∃ id : Id, candidate = id.value ∧ ids id := by
  obtain ⟨id, isId, known, -⟩ := orderly.isKeyed.isLive_of_candidates listed member
  exact ⟨id, isId, known⟩

end IsOrderly

end Host

end ShadowIndex
