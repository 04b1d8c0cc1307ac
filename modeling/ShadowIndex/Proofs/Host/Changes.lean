import ShadowIndex.Proofs.Host.Relations

/-!
Contract: what a change of one record leaves as it was.

Owns:
- `Host.ChangesOnly`, two hosts that differ in the record of one owner at most;
- `Host.Affects`, the other records that can see the change along a relation;
- look-ups, relations and associates that the change leaves alone (`resolve_congr`,
  `associated_congr`).

Does not own: which changes there are, or the texts of records.
-/

set_option autoImplicit false

namespace ShadowIndex

/-! ## Tables without one key -/

namespace Table

variable {κ α : Type} [DecidableEq κ]

theorem erase_insert (table : Table κ α) (key : κ) (value : α) :
    (table.insert key value).erase key = table.erase key := by
  apply ext_rows
  unfold insert
  split
  · simp [erase, filter, append]
  · simp only [erase, filter, modify, mapValues, List.filter_map]
    rw [List.map_congr_left (g := id)]
    · simp [Function.comp_def]
    · intro row member
      have different : row.1 ≠ key := by simpa using (List.mem_filter.1 member).2
      simp [different]

theorem erase_modify (table : Table κ α) (key : κ) (change : α → α) :
    (table.modify key change).erase key = table.erase key := by
  apply ext_rows
  simp only [erase, filter, modify, mapValues, List.filter_map]
  rw [List.map_congr_left (g := id)]
  · simp [Function.comp_def]
  · intro row member
    have different : row.1 ≠ key := by simpa using (List.mem_filter.1 member).2
    simp [different]

theorem erase_erase (table : Table κ α) (key : κ) :
    (table.erase key).erase key = table.erase key := by
  apply ext_rows
  simp [erase, filter]

end Table

namespace Host

/-- Two hosts that differ in the record of one owner at most. -/
structure ChangesOnly (owner : Ref) (before after : Host) : Prop where
  relations : after.relations = before.relations
  outage : after.outage = before.outage
  records : after.records.erase (owner.entityType, owner.id.key) =
    before.records.erase (owner.entityType, owner.id.key)
  destroyed : after.destroyed.erase (owner.entityType, owner.id.key) =
    before.destroyed.erase (owner.entityType, owner.id.key)

namespace ChangesOnly

variable {owner : Ref} {before after : Host}

theorem find?_of_ne {α : Type} {left right : Table (String × Key) α} {key other : String × Key}
    (same : left.erase key = right.erase key) (different : other ≠ key) :
    left.find? other = right.find? other := by
  have found := congrArg (fun table => Table.find? table other) same
  simpa only [Table.find?_erase, different, if_false] using found

theorem record_of_ne (changes : ChangesOnly owner before after) {key : String × Key}
    (different : key ≠ (owner.entityType, owner.id.key)) :
    after.records.find? key = before.records.find? key :=
  find?_of_ne changes.records different

theorem lastKnown_of_ne (changes : ChangesOnly owner before after) {entityType : String} {key : Key}
    (different : (entityType, key) ≠ (owner.entityType, owner.id.key)) :
    after.lastKnown entityType key = before.lastKnown entityType key := by
  rw [lastKnown, lastKnown, changes.record_of_ne different,
    find?_of_ne changes.destroyed different]

theorem key_ne {other : Ref} (different : other ≠ owner) :
    (other.entityType, other.id.key) ≠ (owner.entityType, owner.id.key) := by
  intro same
  obtain ⟨sameType, sameKey⟩ := Prod.mk.inj same
  obtain ⟨otherType, otherId⟩ := other
  obtain ⟨ownerType, ownerId⟩ := owner
  obtain rfl : otherType = ownerType := sameType
  obtain rfl : otherId = ownerId := Id.key_injective sameKey
  exact different rfl

theorem fieldOf_of_ne (changes : ChangesOnly owner before after) {other : Ref}
    (different : other ≠ owner) (field : String) :
    after.fieldOf other field = before.fieldOf other field := by
  rw [fieldOf, fieldOf, changes.record_of_ne (key_ne different)]

theorem isLive_iff_of_ne (changes : ChangesOnly owner before after) {other : Ref}
    (different : other ≠ owner) : after.IsLive other ↔ before.IsLive other := by
  rw [IsLive, IsLive, changes.record_of_ne (key_ne different)]

theorem isKeyed (changes : ChangesOnly owner before after) {ids : Id → Prop}
    (keyed : before.IsKeyed ids) (known : ids owner.id)
    (own : ∀ record, after.records.find? (owner.entityType, owner.id.key) = some record →
      record.id = owner.id.value) : after.IsKeyed ids where
  keyed := by
    intro entityType key record found
    by_cases isOwner : (entityType, key) = (owner.entityType, owner.id.key)
    · obtain ⟨rfl, rfl⟩ := Prod.mk.inj isOwner
      exact ⟨owner.id, own record found, rfl, known⟩
    · rw [changes.record_of_ne isOwner] at found
      exact keyed.keyed entityType key record found
  real := by rw [changes.outage, keyed.real]

/-- Records of which the changed one is none are listed as before. -/
theorem filter_ofType (changes : ChangesOnly owner before after) (entityType : String)
    (test : HostRecord → Bool)
    (outside : ∀ record, before.records.find? (owner.entityType, owner.id.key) = some record ∨
      after.records.find? (owner.entityType, owner.id.key) = some record →
      entityType = owner.entityType → test record = false) :
    (after.ofType entityType).filter test = (before.ofType entityType).filter test := by
  have withoutOwner (table : Table (String × Key) HostRecord)
      (unlisted : ∀ record, table.find? (owner.entityType, owner.id.key) = some record →
        entityType = owner.entityType → test record = false) :
      ((table.rows.filter fun row => decide (row.1.1 = entityType)).map Prod.snd).filter test =
        (((table.erase (owner.entityType, owner.id.key)).rows.filter fun row =>
          decide (row.1.1 = entityType)).map Prod.snd).filter test := by
    simp only [Table.erase, Table.filter, List.filter_map, List.filter_filter]
    congr 1
    apply List.filter_congr
    rintro ⟨key, record⟩ member
    by_cases isOwner : key = (owner.entityType, owner.id.key)
    · subst isOwner
      have found := (table.find?_eq_some_iff _ _).2 member
      by_cases isType : owner.entityType = entityType
      · simp [Function.comp_apply, unlisted record found isType.symm]
      · simp [isType]
    · simp [isOwner]
  rw [ofType, ofType, withoutOwner _ fun record found => outside record (Or.inr found),
    changes.records, ← withoutOwner _ fun record found => outside record (Or.inl found)]

theorem snapshot_of_ne (changes : ChangesOnly owner before after) {other : Ref}
    (different : other ≠ owner) :
    after.snapshot other.entityType other.id.value =
      before.snapshot other.entityType other.id.value := by
  simp only [Host.snapshot_eq_fetch, fetch, changes.outage, Value.key_value, bind, Except.bind,
    changes.record_of_ne (key_ne different)]

theorem mapM_snapshot (changes : ChangesOnly owner before after) {refs : List Ref}
    (elsewhere : ∀ ref ∈ refs, ref ≠ owner) :
    refs.mapM (fun ref => after.snapshot ref.entityType ref.id.value) =
      refs.mapM fun ref => before.snapshot ref.entityType ref.id.value := by
  induction refs with
  | nil => rfl
  | cons ref rest inductionHypothesis =>
      rw [List.mapM_cons, List.mapM_cons, changes.snapshot_of_ne (elsewhere ref (by simp)),
        inductionHypothesis fun other member => elsewhere other (by simp [member])]

end ChangesOnly

/-! ## Associates -/

/-- Whether a change of the record of an owner can be seen by another record along a relation. -/
def Affects (before after : Host) (owner : Ref) (relation : Relation) (other : Ref) : Prop :=
  relation.target = owner.entityType ∧
    match relation.kind with
    | .belongsTo => before.lastFieldOf other relation.foreignKey = owner.id.value
    | .hasMany => before.fieldOf owner relation.foreignKey = other.id.value ∨
        after.fieldOf owner relation.foreignKey = other.id.value

section Associates

variable {ids more : Id → Prop} {owner other : Ref} {before after : Host} {name : String}

theorem same_held_eq_false {host : Host} (orderly : host.IsOrderly ids) {relation : Relation}
    (foreign : host.IsForeignKey owner.entityType relation.foreignKey) {id : Id}
    (different : host.fieldOf owner relation.foreignKey ≠ id.value) {record : HostRecord}
    (found : host.records.find? (owner.entityType, owner.id.key) = some record) :
    Value.same (held record relation.foreignKey) id.value = false := by
  have isField : host.fieldOf owner relation.foreignKey = held record relation.foreignKey := by
    simp [fieldOf, found]
  rw [isField] at different
  rcases orderly.referring _ _ record (Or.inl found) _ foreign with nothing | ⟨target, isTarget⟩
  · rw [nothing]
    cases id <;> simp [Id.value, Value.same, Value.sameScalar]
  · rw [isTarget] at different ⊢
    rw [Bool.eq_false_iff, Ne, Value.same_value_iff]
    rintro rfl
    exact different rfl

variable (changes : ChangesOnly owner before after) (orderly : before.IsOrderly ids)
include changes orderly

theorem resolve_congr (orderlyAfter : after.IsOrderly more) (different : other ≠ owner)
    (unaffected : ∀ relation, before.relations.find? (other.entityType, name) = some relation →
      ¬ Affects before after owner relation other) :
    after.resolve other.entityType other.id.value name =
      before.resolve other.entityType other.id.value name := by
  rw [orderly.resolve_eq, orderlyAfter.resolve_eq, changes.relations]
  cases declared : before.relations.find? (other.entityType, name) with
  | none => rfl
  | some relation =>
      have apart := unaffected relation declared
      cases kind : relation.kind with
      | belongsTo =>
          simp only [kind, resolveOne, Value.key_value, bind, Except.bind,
            changes.lastKnown_of_ne (ChangesOnly.key_ne different), held_of_bind]
          have foreign : before.IsForeignKey other.entityType relation.foreignKey :=
            ⟨_, relation, declared, rfl, by rw [kind]⟩
          have target := orderly.lastFieldOf_isReference foreign other.id
          have isField : ((before.lastKnown other.entityType other.id.key).map fun record =>
              held record relation.foreignKey).getD .nothing =
                before.lastFieldOf other relation.foreignKey := rfl
          rw [isField]
          rcases target with nothing | ⟨id, found⟩
          · have noTarget : before.lastFieldOf other relation.foreignKey = .nothing := nothing
            simp [noTarget, Value.isNothing]
          · have isTarget : before.lastFieldOf other relation.foreignKey = id.value := found
            have elsewhere : (relation.target, id.key) ≠ (owner.entityType, owner.id.key) := by
              intro same
              obtain ⟨sameType, sameKey⟩ := Prod.mk.inj same
              apply apart
              refine ⟨sameType, ?_⟩
              simp only [kind]
              rw [isTarget, Id.key_injective sameKey]
            rw [isTarget]
            simp only [Value.key_value, Table.contains_eq_isSome, changes.record_of_ne elsewhere]
      | hasMany =>
          have foreign : before.IsForeignKey relation.target relation.foreignKey :=
            ⟨_, relation, declared, rfl, by rw [kind]⟩
          have foreignAfter : after.IsForeignKey relation.target relation.foreignKey :=
            ⟨_, relation, by rw [changes.relations]; exact declared, rfl, by rw [kind]⟩
          have unlisted := changes.filter_ofType relation.target
            (fun record => Value.same (held record relation.foreignKey) other.id.value)
            (by
              rintro record found isType
              rw [isType] at foreign foreignAfter
              have neither : ¬ (before.fieldOf owner relation.foreignKey = other.id.value ∨
                  after.fieldOf owner relation.foreignKey = other.id.value) := by
                intro linked
                exact apart ⟨isType, by simpa only [kind] using linked⟩
              rcases found with found | found
              · exact same_held_eq_false orderly foreign (fun same => neither (Or.inl same)) found
              · exact same_held_eq_false orderlyAfter foreignAfter
                  (fun same => neither (Or.inr same)) found)
          simp only [kind, resolveMany]
          exact congrArg (fun records => records.mapM fun record =>
            checkedRef relation.target record.id) unlisted

/-- What a relation reaches from a record is as it was, unless the change can be seen along it. -/
theorem associated_congr (orderlyAfter : after.IsOrderly more) {snapshot : Snapshot}
    (isOther : snapshot.ref = other) (different : other ≠ owner)
    (unaffected : ∀ relation, before.relations.find? (other.entityType, name) = some relation →
      ¬ Affects before after owner relation other) :
    after.associated snapshot name = before.associated snapshot name := by
  have sameRefs := resolve_congr changes orderly orderlyAfter different unaffected
  have notOwner : ∀ refs, before.resolve other.entityType other.id.value name = .ok refs →
      ∀ ref ∈ refs, ref ≠ owner := by
    rintro refs resolved ref member rfl
    cases declared : before.relations.find? (other.entityType, name) with
    | none =>
        rw [orderly.resolve_eq, declared] at resolved
        cases resolved
        cases member
    | some relation =>
        apply unaffected relation declared
        cases kind : relation.kind with
        | belongsTo =>
            obtain ⟨found, resolvedToo, isMember⟩ :=
              orderly.mem_resolve_belongsTo declared kind other.id
            rw [resolved] at resolvedToo
            cases resolvedToo
            obtain ⟨isType, isTarget, -⟩ := (isMember ref).1 member
            exact ⟨isType.symm, by simpa only [kind] using isTarget⟩
        | hasMany =>
            obtain ⟨found, resolvedToo, isMember⟩ :=
              orderly.mem_resolve_hasMany declared kind other.id
            rw [resolved] at resolvedToo
            cases resolvedToo
            obtain ⟨isType, -, isParent⟩ := (isMember ref).1 member
            exact ⟨isType.symm, by simpa only [kind] using Or.inl isParent⟩
  rw [Host.associated_eq_resolve, Host.associated_eq_resolve]
  rw [isOther, sameRefs]
  cases resolved : before.resolve other.entityType other.id.value name with
  | error failure => rfl
  | ok refs =>
      have sameSnapshots := changes.mapM_snapshot (notOwner refs resolved)
      simp only [bind, Except.bind, sameSnapshots]

end Associates

end Host

end ShadowIndex
