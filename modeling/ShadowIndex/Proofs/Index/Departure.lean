import ShadowIndex.Proofs.Host.Commits
import ShadowIndex.Proofs.Index.Notification
import ShadowIndex.Proofs.Index.Tracing

/-!
Contract: the only owners that a notification misses.

Owns:
- `Host.Commits`, a committed change of one record;
- `Catalog.Leaves`, a record that leaves an owner whose texts were read from it;
- an owner that can see the change is told of it, or the record left it (`told_or_leaves`), and all
  others stay sound (`sound_of_commit`).

Does not own: runs of operations.
-/

set_option autoImplicit false

namespace ShadowIndex

/-- One record was created, updated or destroyed. Only an update can make a record forget what it
held. -/
structure Host.Commits (kind : ChangeKind) (record : Ref) (before after : Host) : Prop
    extends Host.ChangesOnly record before after where
  created : kind = .create → before.records.find? (record.entityType, record.id.key) = none
  updated : kind = .update →
    (before.records.find? (record.entityType, record.id.key)).isSome = true ∧
      (after.records.find? (record.entityType, record.id.key)).isSome = true
  remembered : kind ≠ .update → ∀ field (id : Id), before.fieldOf record field = id.value →
    after.lastFieldOf record field = id.value

/-- A record leaves an owner: the foreign key by which the owner had it names the owner no more, not
even as it was when the record was destroyed. -/
def Catalog.Leaves (catalog : Catalog) (before after : Host) (record owner : Ref) : Prop :=
  ∃ name relation, catalog.Reads owner.entityType name ∧
    before.relations.find? (owner.entityType, name) = some relation ∧
    relation.kind = .hasMany ∧ relation.target = record.entityType ∧
    before.fieldOf record relation.foreignKey = owner.id.value ∧
    after.lastFieldOf record relation.foreignKey ≠ owner.id.value

theorem Host.lastFieldOf_of_fieldOf {host : Host} {record : Ref} {field : String} {id : Id}
    (holds : host.fieldOf record field = id.value) : host.lastFieldOf record field = id.value := by
  cases present : host.records.find? (record.entityType, record.id.key) with
  | none =>
      rw [Host.fieldOf_of_absent present] at holds
      exact absurd holds.symm (Id.value_ne_nothing id)
  | some found => rw [Host.lastFieldOf_of_present present, holds]

/-- A record that holds what it held has left no one. -/
theorem Catalog.not_leaves_of_fieldOf {catalog : Catalog} {before after : Host} {record owner : Ref}
    (same : ∀ field, after.fieldOf record field = before.fieldOf record field) :
    ¬ catalog.Leaves before after record owner := by
  rintro ⟨name, relation, -, -, -, -, had, gone⟩
  apply gone
  apply Host.lastFieldOf_of_fieldOf
  rw [same, had]

namespace Index

variable {catalog : Catalog} {ids more : Id → Prop} {kind : ChangeKind} {record owner : Ref}
variable {before after : Host}

/-! ## Owners that can see a change -/

section Seen

variable {name : String} {relation : Relation}
variable (changes : Host.ChangesOnly record before after) (orderly : after.IsOrderly more)
variable (traces : catalog.Traces before owner.entityType)
variable (reads : catalog.Reads owner.entityType name)
variable (declared : before.relations.find? (owner.entityType, name) = some relation)
include changes traces reads declared

/-- An owner from which the opposite relation leads back is told. -/
theorem told_of_opposite (isTarget : relation.target = record.entityType)
    (leadsBack : ∀ opposite,
      after.relations.find? (record.entityType, opposite) =
        some ⟨owner.entityType, relation.foreignKey, relation.kind.opposite⟩ →
      ∃ refs, after.resolve record.entityType record.id.value opposite = .ok refs ∧ owner ∈ refs) :
    Told catalog after kind record.entityType record.id owner := by
  obtain ⟨mirrored, opposite, isRelation, isOpposite, isEdge⟩ :=
    Catalog.mirrors_of_reads traces reads
  rw [declared] at isRelation
  cases isRelation
  rw [isTarget] at isOpposite isEdge
  obtain ⟨refs, resolved, member⟩ := leadsBack opposite (by rw [changes.relations]; exact isOpposite)
  right
  refine ⟨⟨owner.entityType, record.entityType, opposite⟩, ?_, ?_⟩
  · exact (catalog.dependencies.mem_edgesFrom_iff _ _).2
      ⟨rfl, (catalog.dependencies.mem_edges_iff _).1 isEdge⟩
  · exact ⟨Catalog.isRegistered_of_reads reads, refs, resolved, owner, member, rfl⟩

include orderly

/-- The owner that the record names now, or named last, is told. -/
theorem told_of_lastFieldOf (isKind : relation.kind = .hasMany)
    (isTarget : relation.target = record.entityType)
    (names : after.lastFieldOf record relation.foreignKey = owner.id.value)
    (present : (after.records.find? (owner.entityType, owner.id.key)).isSome = true) :
    Told catalog after kind record.entityType record.id owner := by
  apply told_of_opposite changes traces reads declared isTarget
  intro opposite isOpposite
  rw [isKind] at isOpposite
  obtain ⟨refs, resolved, isMember⟩ := orderly.mem_resolve_belongsTo isOpposite rfl record.id
  exact ⟨refs, resolved, (isMember owner).2 ⟨rfl, names, present⟩⟩

/-- An owner that belongs to the record, or that has it now or had it last, is told. -/
theorem told_or_leaves (different : owner ≠ record)
    (present : (before.records.find? (owner.entityType, owner.id.key)).isSome = true)
    (affects : before.Affects after record relation owner) :
    Told catalog after kind record.entityType record.id owner ∨
      catalog.Leaves before after record owner := by
  obtain ⟨isTarget, linked⟩ := affects
  have presentAfter : (after.records.find? (owner.entityType, owner.id.key)).isSome = true := by
    rw [changes.record_of_ne (Host.ChangesOnly.key_ne different)]
    exact present
  cases isKind : relation.kind with
  | belongsTo =>
      -- The record has the owner among its many.
      simp only [isKind] at linked
      obtain ⟨stored, found⟩ := Option.isSome_iff_exists.1 present
      rw [Host.lastFieldOf_of_present found, ← changes.fieldOf_of_ne different] at linked
      left
      apply told_of_opposite changes traces reads declared isTarget
      intro opposite isOpposite
      rw [isKind] at isOpposite
      obtain ⟨refs, resolved, isMember⟩ := orderly.mem_resolve_hasMany isOpposite rfl record.id
      exact ⟨refs, resolved, (isMember owner).2 ⟨rfl, presentAfter, linked⟩⟩
  | hasMany =>
      simp only [isKind] at linked
      by_cases stays : after.lastFieldOf record relation.foreignKey = owner.id.value
      · left
        exact told_of_lastFieldOf changes orderly traces reads declared isKind isTarget stays
          presentAfter
      · right
        have had := linked.resolve_right fun has => stays (Host.lastFieldOf_of_fieldOf has)
        exact ⟨name, relation, reads, declared, isKind, isTarget, had, stays⟩

end Seen

/-! ## Owners that are not told -/

theorem present_of_builds (serving : before.outage = .none) {entry : Entry}
    (builds : catalog.Builds before owner entry) :
    (before.records.find? (owner.entityType, owner.id.key)).isSome = true := by
  obtain ⟨streams, built⟩ := builds
  rw [Catalog.liveEntry_source, Host.snapshot_of_serving serving] at built
  cases found : before.records.find? (owner.entityType, owner.id.key) with
  | none => simp [found] at built
  | some stored => rfl

/-- A type without fields has the same texts for every record. -/
theorem liveEntry_of_unregistered (serving : before.outage = .none)
    (servingAfter : after.outage = .none)
    (unregistered : catalog.registry.isRegistered owner.entityType = false)
    (present : (before.records.find? (owner.entityType, owner.id.key)).isSome = true)
    (presentAfter : (after.records.find? (owner.entityType, owner.id.key)).isSome = true) :
    catalog.liveEntry after owner.entityType owner.id.value =
      catalog.liveEntry before owner.entityType owner.id.value := by
  have noFields : (catalog.registry.get owner.entityType).fields.rows = [] := by
    simpa [Registry.isRegistered, Definition.isEmpty, Table.isEmpty] using unregistered
  obtain ⟨stored, found⟩ := Option.isSome_iff_exists.1 present
  obtain ⟨other, foundAfter⟩ := Option.isSome_iff_exists.1 presentAfter
  funext streams
  rw [Catalog.liveEntry_source, Catalog.liveEntry_source, Host.snapshot_of_serving serving,
    Host.snapshot_of_serving servingAfter, found, foundAfter]
  cases Host.checkedRef owner.entityType owner.id.value with
  | error failure => rfl
  | ok ref => simp [Except.map, Registry.build, noFields, Action.each, Action.bind_apply]

theorem sound_of_liveEntry_eq {later : Catalog} {held : Option Entry}
    (same : ∀ entry, catalog.Builds before owner entry →
      later.liveEntry after owner.entityType owner.id.value =
        catalog.liveEntry before owner.entityType owner.id.value)
    (sound : catalog.Sound before owner held) : later.Sound after owner held := by
  intro entry isHeld fresh
  have sameNow := same entry (sound entry isHeld fresh)
  obtain ⟨streams, built⟩ := sound entry isHeld fresh
  exact ⟨streams, by rw [sameNow]; exact built⟩

/-- An owner that is not told of a commit keeps a sound entry, unless the record left it. -/
theorem sound_of_untold (commits : Host.Commits kind record before after)
    (orderly : before.IsOrderly ids) (orderlyAfter : after.IsOrderly more)
    (traces : catalog.Traces before owner.entityType) {held : Option Entry}
    (sound : catalog.Sound before owner held)
    (untold : ¬ Told catalog after kind record.entityType record.id owner)
    (stays : ¬ catalog.Leaves before after record owner) : catalog.Sound after owner held := by
  apply sound_of_liveEntry_eq _ sound
  intro entry builds
  have present := present_of_builds orderly.serving builds
  by_cases isRecord : owner = record
  · subst isRecord
    -- A record that is not told of its own change has a type without fields.
    have unregistered : catalog.registry.isRegistered owner.entityType = false := by
      by_contra registered
      exact untold (Or.inl ⟨rfl, Or.inr (by simpa using registered)⟩)
    have isUpdate : kind = .update := by
      cases isKind : kind with
      | create =>
          rw [commits.created isKind] at present
          cases present
      | update => rfl
      | destroy => exact absurd (Or.inl ⟨rfl, Or.inl isKind⟩) untold
    exact liveEntry_of_unregistered orderly.serving orderlyAfter.serving unregistered present
      (commits.updated isUpdate).2
  · apply Catalog.liveEntry_congr traces rfl
    · exact commits.toChangesOnly.snapshot_of_ne isRecord
    · intro snapshot found name reads
      apply Host.associated_congr commits.toChangesOnly orderly orderlyAfter
        (Host.ref_of_snapshot found) isRecord
      intro relation declared affects
      rcases told_or_leaves commits.toChangesOnly orderlyAfter traces reads declared isRecord
        present affects with told | leaves
      · exact untold told
      · exact stays leaves

/-- Nothing but an update makes a record leave an owner. -/
theorem kind_of_leaves (commits : Host.Commits kind record before after)
    (leaves : catalog.Leaves before after record owner) : kind = .update := by
  obtain ⟨name, relation, -, -, -, -, had, gone⟩ := leaves
  by_contra other
  exact gone (commits.remembered other relation.foreignKey owner.id had)

/-- After a notification that returns, an owner that was sound is sound, unless the record left it
untold. -/
theorem sound_of_commit (commits : Host.Commits kind record before after)
    (orderly : before.IsOrderly ids) (orderlyAfter : after.IsOrderly more)
    (traces : catalog.Traces before owner.entityType) {former later : Store}
    {outcome : Except Failure Unit} (returned : outcome = .ok ())
    (notifies : Notifies catalog after (Told catalog after kind record.entityType record.id)
      former outcome later)
    (sound : catalog.Sound before owner (former.find? owner))
    (stays : Told catalog after kind record.entityType record.id owner ∨
      ¬ catalog.Leaves before after record owner) :
    catalog.Sound after owner (later.find? owner) := by
  by_cases told : Told catalog after kind record.entityType record.id owner
  · exact notifies.settled ⟨(), returned⟩ owner told
  · rw [notifies.frame told]
    exact sound_of_untold commits orderly orderlyAfter traces sound told (stays.resolve_left told)

end Index

end ShadowIndex
