import ShadowIndex.Proofs.Application.Freshness

/-!
Contract: what an update that moves a record from one owner to another does to the entries of both.

Owns:
- `Application.Reparents`: a new owner has a true entry; the former one has a true entry exactly if it
  is told in another way, or if its stored entry is not fresh or is still the live one;
- this holds of every update that returns, in every state of a run.

Does not own: runs as a whole.
-/

set_option autoImplicit false

namespace ShadowIndex.Application

/-- What becomes of the entries of owners when a record leaves one of them. -/
structure Reparents (before after : Application) (record : Ref) (relation : Relation)
    (ownerType : String) (former : Id) : Prop where
  joined : ∀ owner : Id, after.host.fieldOf record relation.foreignKey = owner.value →
    (before.host.records.find? (ownerType, owner.key)).isSome = true →
    after.catalog.Sound after.host ⟨ownerType, owner⟩ (after.store.find? ⟨ownerType, owner⟩)
  left : after.catalog.Sound after.host ⟨ownerType, former⟩
      (after.store.find? ⟨ownerType, former⟩) ↔
    Index.Told before.catalog after.host .update record.entityType record.id ⟨ownerType, former⟩ ∨
      ∀ entry, before.store.find? ⟨ownerType, former⟩ = some entry →
        entry.content.stale = false →
        after.catalog.live after.host ⟨ownerType, former⟩ = .ok (some entry)
  untold : record ≠ ⟨ownerType, former⟩ →
    (∀ edge ∈ before.catalog.dependencies.edges, edge.dependent = ownerType →
      edge.source = record.entityType →
      before.host.relations.find? (record.entityType, edge.relation) =
        some ⟨ownerType, relation.foreignKey, .belongsTo⟩) →
    ¬ Index.Told before.catalog after.host .update record.entityType record.id ⟨ownerType, former⟩

variable {ids : Id → Prop} {entityType name : String} {id former : Id} {record : Ref}
variable {changes : Fields} {relation : Relation} {before after application : Application}

section Committed

variable (ready : before.IsReady ids entityType) (done : Committed ids .update record before after)
include ready done

/-- The owner that a record comes to is told. -/
theorem sound_of_joined (reads : before.catalog.Reads entityType name)
    (declared : before.host.relations.find? (entityType, name) = some relation)
    (isKind : relation.kind = .hasMany) (isTarget : relation.target = record.entityType)
    {owner : Id} (joins : after.host.fieldOf record relation.foreignKey = owner.value)
    (present : (before.host.records.find? (entityType, owner.key)).isSome = true) :
    after.catalog.Sound after.host ⟨entityType, owner⟩ (after.store.find? ⟨entityType, owner⟩) := by
  have presentAfter : (after.host.records.find? (entityType, owner.key)).isSome = true := by
    by_cases isRecord : (⟨entityType, owner⟩ : Ref) = record
    · have updated := (done.commits.updated rfl).2
      rw [← isRecord] at updated
      exact updated
    · have same := done.commits.toChangesOnly.record_of_ne (Host.ChangesOnly.key_ne isRecord)
      rw [same]
      exact present
  rw [done.catalog]
  apply done.notifies.settled ⟨(), rfl⟩
  exact Index.told_of_lastFieldOf done.commits.toChangesOnly done.orderly ready.traces reads declared
    isKind isTarget (Host.lastFieldOf_of_fieldOf joins) presentAfter

/-- An owner that is not told keeps the entry that it had. -/
theorem sound_iff_of_committed (owner : Id) :
    after.catalog.Sound after.host ⟨entityType, owner⟩ (after.store.find? ⟨entityType, owner⟩) ↔
      Index.Told before.catalog after.host .update record.entityType record.id ⟨entityType, owner⟩ ∨
        ∀ entry, before.store.find? ⟨entityType, owner⟩ = some entry →
          entry.content.stale = false →
          after.catalog.live after.host ⟨entityType, owner⟩ = .ok (some entry) := by
  have readyAfter := done.ready ready
  have steady := Catalog.isSteady_of_traces readyAfter.traces readyAfter.orderly
  by_cases told : Index.Told before.catalog after.host .update record.entityType record.id
      ⟨entityType, owner⟩
  · have sound := done.notifies.settled ⟨(), rfl⟩ _ told
    rw [← done.catalog] at sound
    exact ⟨fun _ => Or.inl told, fun _ => sound⟩
  · rw [done.notifies.frame told]
    constructor
    · intro sound
      right
      intro entry held fresh
      exact (Catalog.builds_iff steady owner entry).1 (sound entry held fresh)
    · intro either entry held fresh
      have isLive := either.resolve_left told
      exact (Catalog.builds_iff steady owner entry).2 (isLive entry held fresh)

omit ready in
/-- Where the texts depend on the record along its foreign key only, the owner that it left is not
told. -/
theorem untold_of_moved (moved : after.host.fieldOf record relation.foreignKey ≠ former.value)
    (isOther : record ≠ ⟨entityType, former⟩)
    (onlyKey : ∀ edge ∈ before.catalog.dependencies.edges, edge.dependent = entityType →
      edge.source = record.entityType →
      before.host.relations.find? (record.entityType, edge.relation) =
        some ⟨entityType, relation.foreignKey, .belongsTo⟩) :
    ¬ Index.Told before.catalog after.host .update record.entityType record.id
      ⟨entityType, former⟩ := by
  rintro (⟨same, -⟩ | ⟨edge, isEdge, -, refs, resolved, ref, member, isOwner⟩)
  · exact isOther same.symm
  · obtain ⟨sameType, rfl⟩ := Ref.mk.inj isOwner
    obtain ⟨isSource, known⟩ := (before.catalog.dependencies.mem_edgesFrom_iff _ edge).1 isEdge
    have listed := (before.catalog.dependencies.mem_edges_iff edge).2 known
    have declared := onlyKey edge listed sameType.symm isSource
    rw [← done.commits.relations] at declared
    obtain ⟨found, resolvedToo, isMember⟩ :=
      done.orderly.mem_resolve_belongsTo declared rfl record.id
    rw [resolved] at resolvedToo
    cases resolvedToo
    obtain ⟨-, names, -⟩ := (isMember ref).1 member
    obtain ⟨stored, isStored⟩ := Option.isSome_iff_exists.1 (done.commits.updated rfl).2
    apply moved
    rw [← Host.lastFieldOf_of_present isStored]
    exact names

end Committed

/-- In every state of a run, an update that returns leaves each owner that a record comes to with a true
entry. An owner that the record does not belong to afterwards is left with what it had, unless it is
told in another way. -/
theorem reparents_of_update (begins : application.Begins ids entityType)
    {operations : List Operation}
    (allowed : Operation.Along (Operation.Allowed ids entityType) application operations)
    (reached : before = Operation.afterAll application operations)
    (reads : before.catalog.Reads entityType name)
    (declared : before.host.relations.find? (entityType, name) = some relation)
    (isKind : relation.kind = .hasMany)
    (fits : (Operation.update relation.target id changes).Fits ids entityType before)
    (returned : ((Operation.update relation.target id changes).run before).1 = .ok ())
    (isAfter : after = (Operation.update relation.target id changes).after before)
    (moved : after.host.fieldOf ⟨relation.target, id⟩ relation.foreignKey ≠ former.value) :
    Reparents before after ⟨relation.target, id⟩ relation entityType former := by
  have ready : before.IsReady ids entityType := by
    rw [reached]
    exact ready_afterAll begins.ready allowed
  rcases update_cases ready fits (Operation.goesOn_of_returned returned) with
    ⟨⟨failure, failed⟩, -⟩ | done
  · rw [returned] at failed
    cases failed
  · rw [← isAfter] at done
    exact {
      joined := fun _ joins present =>
        sound_of_joined ready done reads declared isKind rfl joins present
      left := sound_iff_of_committed ready done former
      untold := untold_of_moved done moved }

theorem joins_after_move :
    (move.after (Operation.afterAll blog settlement)).host.fieldOf ⟨"post", .int 7⟩ "user_id" =
      Id.value (.int 2) := by
  with_unfolding_all rfl

/-- A post that moves from the first user to the second. -/
theorem reparents_of_move :
    Reparents (Operation.afterAll blog settlement) (move.after (Operation.afterAll blog settlement))
      ⟨"post", .int 7⟩ ⟨"post", "user_id", .hasMany⟩ "user" (.int 1) := by
  have reads : (Operation.afterAll blog settlement).catalog.Reads "user" "posts" :=
    ⟨("posts", ⟨.extractor (.association "posts" ["title"]), true⟩), List.mem_singleton.2 rfl,
      ["title"], rfl⟩
  refine @reparents_of_update (fun _ => True) "user" "posts" (.int 7) (.int 1) _
    ⟨"post", "user_id", .hasMany⟩ _ _ blog blog_begins settlement settlement_allowed rfl reads rfl rfl
    move_fits move_returned rfl ?_
  rw [joins_after_move]
  exact fun same => absurd (Id.value_injective same) (by decide)

/-- A post moves from a user to another, and the former user is still found by its title. -/
theorem former_user_found :
    blog.Begins (fun _ => True) "user" ∧
      Operation.Along (Operation.Allowed (fun _ => True) "user") blog (settlement ++ [move]) ∧
      (Operation.afterAll blog settlement).host.fieldOf ⟨"post", .int 7⟩ "user_id" =
        Id.value (.int 1) ∧
      (move.after (Operation.afterAll blog settlement)).host.fieldOf ⟨"post", .int 7⟩ "user_id" =
        Id.value (.int 2) ∧
      ¬ (move.after (Operation.afterAll blog settlement)).catalog.Sound
        (move.after (Operation.afterAll blog settlement)).host ⟨"user", .int 1⟩
        ((move.after (Operation.afterAll blog settlement)).store.find? ⟨"user", .int 1⟩) ∧
      ((onIndex (fun catalog host => Index.search catalog host "user" (some "needle") .all)
        (move.after (Operation.afterAll blog settlement))).1.toOption.map
          fun found => found.map fun id => id.key.toOption) =
        some [some (.int 1), some (.int 2)] :=
  ⟨blog_begins, settlement_move_allowed, rfl, joins_after_move, unsound_after_move,
    by decide +kernel⟩

end ShadowIndex.Application
