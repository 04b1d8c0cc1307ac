import ShadowIndex.Index.Change
import ShadowIndex.Proofs.Index.Batch
import ShadowIndex.Proofs.Index.Upkeep

/-!
Contract: whom a notification tells, and what that does.

Owns:
- `Index.Told`, the owners that a change reaches: its own record, and the records that depend on it;
- `Index.Notifies`: a notification that returns leaves every told owner sound and touches no other
  entry; it fails only where the program ends (`isNotifying_onChange`);
- `Index.markType_inv`: a change of the fields of a type flags all its entries.

Does not own: which records a change affects.
-/

set_option autoImplicit false

namespace ShadowIndex.Index

/-- Work that touches entries of some owners. If it returns, they are sound; if it fails, the
program ends. -/
structure Notifies {α : Type} (catalog : Catalog) (host : Host) (told : Ref → Prop)
    (before : Store) (outcome : Except Failure α) (after : Store) : Prop
    extends Upkeep catalog host told before after where
  settled : (∃ value, outcome = .ok value) → ∀ owner, told owner →
    catalog.Sound host owner (after.find? owner)
  ending : ∀ failure, outcome = .error failure → failure.isEnding = true

/-- An action that notifies on every store that holds certain ids. -/
def IsNotifying {α : Type} (catalog : Catalog) (host : Host) (ids : Id → Prop)
    (told : Ref → Prop) (action : Action Index α) : Prop :=
  ∀ ⦃before after : Store⦄ ⦃outcome : Except Failure α⦄, before.Holds ids →
    Runs action before outcome after → Notifies catalog host told before outcome after

variable {α β : Type} {catalog : Catalog} {host : Host} {ids : Id → Prop} {told more : Ref → Prop}
variable {entityType : String}

/-! ## Composition -/

theorem IsNotifying.congr {action : Action Index α}
    (notifies : IsNotifying catalog host ids told action)
    (same : ∀ owner, told owner ↔ more owner) : IsNotifying catalog host ids more action := by
  obtain rfl : told = more := funext fun owner => propext (same owner)
  exact notifies

theorem isNotifying_of_quiet {action : Action Index α}
    (quiet : ∀ {before after : Store} {outcome : Except Failure α},
      Runs action before outcome after → (∃ value, outcome = .ok value) ∧ after = before) :
    IsNotifying catalog host ids (fun _ => False) action := by
  intro before after outcome _ runs
  obtain ⟨⟨value, rfl⟩, rfl⟩ := quiet runs
  refine ⟨Upkeep.refl _, fun _ owner impossible => impossible.elim, ?_⟩
  intro failure impossible
  cases impossible

theorem isNotifying_pure (value : α) :
    IsNotifying catalog host ids (fun _ => False) (pure value) :=
  isNotifying_of_quiet fun runs => ⟨⟨value, runs.pure_inv.1⟩, runs.pure_inv.2⟩

theorem isNotifying_note (note : Note) :
    IsNotifying catalog host ids (fun _ => False) (Index.note note) :=
  isNotifying_of_quiet fun runs => ⟨⟨(), runs.note_inv.1⟩, runs.note_inv.2⟩

/-- Whom the first part tells stays sound through the second. -/
theorem IsNotifying.bind {action : Action Index α} {next : α → Action Index β}
    (first : IsNotifying catalog host ids told action)
    (rest : ∀ value, IsNotifying catalog host ids more (next value))
    (within : ∀ owner, told owner → ids owner.id) :
    IsNotifying catalog host ids (fun owner => told owner ∨ more owner) (action >>= next) := by
  intro before after outcome holds runs
  rcases runs.bind_inv with ⟨value, middle, ran, later⟩ | ⟨failure, rfl, ran⟩
  · have early := first holds ran
    have late := rest value (early.toUpkeep.holds within holds) later
    refine ⟨(early.toUpkeep.mono fun _ => Or.inl).trans (late.toUpkeep.mono fun _ => Or.inr), ?_,
      late.ending⟩
    rintro returned owner (isTold | isTold)
    · exact late.toUpkeep.sound (early.settled ⟨value, rfl⟩ owner isTold)
    · exact late.settled returned owner isTold
  · have early := first holds ran
    refine ⟨early.toUpkeep.mono fun _ => Or.inl, ?_, ?_⟩
    · rintro ⟨value, impossible⟩
      cases impossible
    · rintro _ ⟨⟩
      exact early.ending failure rfl

/-- Notifications one after the other tell all that each of them tells. -/
theorem isNotifying_each {action : α → Action Index β} {items : List α} {told : α → Ref → Prop}
    (step : ∀ item ∈ items, IsNotifying catalog host ids (told item) (action item))
    (within : ∀ item ∈ items, ∀ owner, told item owner → ids owner.id) :
    IsNotifying catalog host ids (fun owner => ∃ item ∈ items, told item owner)
      (Action.each action items) := by
  induction items with
  | nil => exact (isNotifying_pure []).congr fun owner => by simp
  | cons item rest inductionHypothesis =>
      have others := inductionHypothesis (fun other member => step other (by simp [member]))
        (fun other member => within other (by simp [member]))
      have collected (value : β) := others.bind
        (fun values => isNotifying_pure (value :: values))
        (fun owner ⟨other, member, isTold⟩ => within other (by simp [member]) owner isTold)
      have whole := (step item (by simp)).bind collected (within item (by simp))
      exact whole.congr fun owner => by simp

theorem IsNotifying.bound {work : Action Index α}
    (notifies : IsNotifying catalog host ids told work) (fields : List (String × Value)) :
    IsNotifying catalog host ids told (bound fields work) :=
  fun _ _ _ holds runs => notifies holds runs.bound_inv

/-! ## Single records -/

theorem Runs.forget_inv {id : Id} {before after : Store} (opened : before.requireOpen = .ok ())
    (accepts : before.Accepts id) {outcome : Except Failure Unit}
    (runs : Runs (forget entityType id.value) before outcome after) :
    outcome = .ok () ∧ before.Places ⟨entityType, id⟩ none after := by
  have removed {finish : Store} {result : Except Failure Unit}
      (ran : Runs (do if ← delete entityType id.value then note (.entryDeleted entityType id.value))
        before result finish) :
      result = .ok () ∧ before.Places ⟨entityType, id⟩ none finish := by
    rcases ran.bind_inv with ⟨present, middle, deleted, rest⟩ | ⟨failure, -, deleted⟩
    · obtain ⟨-, placed⟩ := delete_inv opened accepts deleted
      split at rest
      · obtain ⟨rfl, rfl⟩ := rest.note_inv
        exact ⟨rfl, placed⟩
      · obtain ⟨rfl, rfl⟩ := rest.pure_inv
        exact ⟨rfl, placed⟩
    · exact absurd (delete_inv opened accepts deleted).1 (by simp)
  rcases runs.bind_inv with ⟨value, middle, held, rest⟩ | ⟨failure, -, held⟩
  · obtain ⟨-, placed⟩ := removed held.holding_inv
    obtain ⟨rfl, rfl⟩ := rest.discardLock_inv
    exact ⟨rfl, placed⟩
  · exact absurd (removed held.holding_inv).1 (by simp)

section Records

variable {id : Id} (known : ids id)
include known

theorem eager_inv {before after : Store} (holds : before.Holds ids) {outcome : Except Failure Unit}
    (runs : Runs (do
      match ← (reindexOne catalog host entityType id.value).attempt with
      | .ok _ => return ()
      | .error failure =>
          if isRebuildFailure failure then note (.eagerFailed failure)
          else Action.fail failure) before outcome after) :
    Upkeep catalog host (fun owner => owner = ⟨entityType, id⟩) before after ∧
      ∀ failure, outcome = .error failure → failure.isEnding = true := by
  obtain ⟨result, built, placed, known⟩ := eagerBuild_inv holds.opened (holds.accepts id known) runs
  refine ⟨?_, ?_⟩
  · apply Upkeep.of_update placed
    exact (settled_afterRebuild built _).imp_right fun sound => ⟨rfl, sound⟩
  · rintro failure rfl
    rcases known with impossible | ⟨other, same, -, ending⟩
    · cases impossible
    · cases same
      exact ending

/-- An entry that is invalidated is stale, or built right away. -/
theorem isNotifying_invalidate
    (named : catalog.registry.isRegistered entityType = true → entityType ≠ "") (cause : String) :
    IsNotifying catalog host ids
      (fun owner => owner = ⟨entityType, id⟩ ∧ catalog.registry.isRegistered entityType = true)
      (invalidate catalog host cause entityType id.value) := by
  by_cases registered : catalog.registry.isRegistered entityType = true
  · intro before after outcome holds runs
    simp only [invalidate, registered, Bool.not_true, Bool.false_eq_true, if_false] at runs
    rcases runs.bind_inv with ⟨entry, middle, ensured, rest⟩ | ⟨failure, -, ensured⟩
    · obtain ⟨-, placed⟩ := ensureStale_inv holds.opened (Or.inl (named registered))
        (holds.accepts id known) ensured.holding_inv
      have flagged : catalog.Sound host ⟨entityType, id⟩ (middle.find? ⟨entityType, id⟩) := by
        rw [placed.found, Function.update_self]
        exact sound_of_stale (Store.staleEntry_stale before _)
      have first : Upkeep catalog host (fun owner => owner = ⟨entityType, id⟩) before middle := by
        apply Upkeep.of_update placed
        exact Or.inr ⟨rfl, sound_of_stale (Store.staleEntry_stale before _)⟩
      have later : Upkeep catalog host (fun owner => owner = ⟨entityType, id⟩) middle after ∧
          ∀ failure, outcome = .error failure → failure.isEnding = true := by
        have counted := rest.bind_quiet_inv Runs.count_inv
        split at counted
        · obtain ⟨rfl, rfl⟩ := counted.pure_inv
          exact ⟨Upkeep.refl _, by simp⟩
        · have within (owner : Ref) (same : owner = ⟨entityType, id⟩) : ids owner.id := by
            rw [same]
            exact known
          exact eager_inv known (first.holds within holds) counted
      refine ⟨(first.trans later.1).mono fun owner same => ⟨same, registered⟩, ?_, later.2⟩
      rintro - owner ⟨rfl, -⟩
      exact later.1.sound flagged
    · exact absurd (ensureStale_inv holds.opened (Or.inl (named registered))
        (holds.accepts id known) ensured.holding_inv).1 (by simp)
  · have skipped : invalidate catalog host cause entityType id.value = pure () := by
      simp only [invalidate, registered, Bool.not_false, if_true]
    rw [skipped]
    exact (isNotifying_pure ()).congr fun owner => by simp [registered]

/-- A record that is forgotten has no entry. -/
theorem isNotifying_forget :
    IsNotifying catalog host ids (fun owner => owner = ⟨entityType, id⟩)
      (forget entityType id.value) := by
  intro before after outcome holds runs
  obtain ⟨rfl, placed⟩ := runs.forget_inv holds.opened (holds.accepts id known)
  refine ⟨Upkeep.of_update placed (Or.inr ⟨rfl, sound_none _⟩), ?_, by simp⟩
  rintro - owner rfl
  rw [placed.found, Function.update_self]
  exact sound_none _

end Records

/-! ## Changes of records -/

/-- The owners whose entries one dependency reaches from a record. -/
def Reached (catalog : Catalog) (host : Host) (entityType : String) (id : Id)
    (edge : Dependency) (owner : Ref) : Prop :=
  catalog.registry.isRegistered edge.dependent = true ∧
    ∃ refs, host.resolve entityType id.value edge.relation = .ok refs ∧
      ∃ ref ∈ refs, owner = ⟨edge.dependent, ref.id⟩

/-- The owners that a change of a record is told to: the record, and what depends on it now. -/
def Told (catalog : Catalog) (host : Host) (kind : ChangeKind) (entityType : String) (id : Id)
    (owner : Ref) : Prop :=
  (owner = ⟨entityType, id⟩ ∧
      (kind = .destroy ∨ catalog.registry.isRegistered entityType = true)) ∨
    ∃ edge ∈ catalog.dependencies.edgesFrom entityType,
      Reached catalog host entityType id edge owner

/-- What a notification of a record needs: the record and what relations reach from it are known,
and types with fields have names. -/
structure Notifiable (catalog : Catalog) (host : Host) (ids : Id → Prop) (entityType : String)
    (id : Id) : Prop where
  known : ids id
  named : ∀ registered, catalog.registry.isRegistered registered = true → registered ≠ ""
  resolves : ∀ relation, ∃ refs, host.resolve entityType id.value relation = .ok refs ∧
    ∀ ref ∈ refs, ids ref.id

section Changes

variable {id : Id} (notifiable : Notifiable catalog host ids entityType id)
include notifiable

theorem known_of_reached (edge : Dependency) (owner : Ref)
    (reached : Reached catalog host entityType id edge owner) : ids owner.id := by
  obtain ⟨-, refs, resolved, ref, member, rfl⟩ := reached
  obtain ⟨others, resolvedToo, known⟩ := notifiable.resolves edge.relation
  rw [resolved] at resolvedToo
  cases resolvedToo
  exact known ref member

theorem known_of_told (kind : ChangeKind) (owner : Ref)
    (told : Told catalog host kind entityType id owner) : ids owner.id := by
  rcases told with ⟨rfl, -⟩ | ⟨edge, -, reached⟩
  · exact notifiable.known
  · exact known_of_reached notifiable edge owner reached

theorem isNotifying_cascadeAlong (edge : Dependency) :
    IsNotifying catalog host ids (Reached catalog host entityType id edge)
      (cascadeAlong catalog host entityType id.value edge) := by
  by_cases registered : catalog.registry.isRegistered edge.dependent = true
  · obtain ⟨refs, resolved, known⟩ := notifiable.resolves edge.relation
    rw [cascadeAlong_of_resolved registered resolved]
    have each : IsNotifying catalog host ids
        (fun owner => ∃ ref ∈ refs, owner = (⟨edge.dependent, ref.id⟩ : Ref) ∧
          catalog.registry.isRegistered edge.dependent = true)
        (Action.each (fun (dependent : Ref) =>
          invalidate catalog host "dependency" edge.dependent dependent.id.value) refs) := by
      apply isNotifying_each
      · intro ref member
        exact isNotifying_invalidate (known ref member) (notifiable.named _) _
      · rintro ref member owner ⟨rfl, -⟩
        exact known ref member
    have noted : IsNotifying catalog host ids (fun _ => False)
        (if !refs.isEmpty then
          Index.note (.dependentsMarked entityType id.value refs.length edge.dependent)
        else pure ()) := by
      split
      · exact isNotifying_note _
      · exact isNotifying_pure ()
    have whole := each.bind (fun _ => noted) fun owner ⟨ref, member, same, _⟩ => by
      rw [same]
      exact known ref member
    apply IsNotifying.congr whole
    intro owner
    simp [Reached, registered, resolved]
  · rw [cascadeAlong_of_unregistered (eq_false_of_ne_true registered)]
    apply IsNotifying.congr (isNotifying_note _)
    intro owner
    simp [Reached, registered]

theorem isNotifying_cascade :
    IsNotifying catalog host ids
      (fun owner => ∃ edge ∈ catalog.dependencies.edgesFrom entityType,
        Reached catalog host entityType id edge owner)
      (cascade catalog host entityType id.value) := by
  have each : IsNotifying catalog host ids
      (fun owner => ∃ edge ∈ catalog.dependencies.edgesFrom entityType,
        Reached catalog host entityType id edge owner)
      (Action.each (cascadeAlong catalog host entityType id.value)
        (catalog.dependencies.edgesFrom entityType)) :=
    isNotifying_each (fun edge _ => isNotifying_cascadeAlong notifiable edge)
      (fun edge _ owner reached => known_of_reached notifiable edge owner reached)
  have whole := each.bind (fun _ => isNotifying_pure ())
    (fun owner ⟨edge, _, reached⟩ => known_of_reached notifiable edge owner reached)
  exact whole.congr fun owner => by simp

/-- A notification that returns leaves every told owner sound, and touches no other entry. -/
theorem isNotifying_onChange (kind : ChangeKind) :
    IsNotifying catalog host ids (Told catalog host kind entityType id)
      (onChange catalog host ⟨kind, entityType, id.value⟩) := by
  apply IsNotifying.bound
  -- The step on the record itself comes before the cascade, whatever it is.
  have after {step : Action Index Unit} {own : Ref → Prop}
      (notifies : IsNotifying catalog host ids own step)
      (isOwn : ∀ owner, own owner ↔ owner = ⟨entityType, id⟩ ∧
        (kind = .destroy ∨ catalog.registry.isRegistered entityType = true)) :
      IsNotifying catalog host ids (Told catalog host kind entityType id)
        (step >>= fun _ => cascade catalog host entityType id.value) := by
    refine (notifies.congr isOwn).bind (fun _ => isNotifying_cascade notifiable) fun owner same => ?_
    rw [same.1]
    exact notifiable.known
  cases kind with
  | destroy => exact after (isNotifying_forget notifiable.known) fun owner => by simp
  | create =>
      exact after (isNotifying_invalidate notifiable.known (notifiable.named _) _)
        fun owner => by simp
  | update =>
      exact after (isNotifying_invalidate notifiable.known (notifiable.named _) _)
        fun owner => by simp

end Changes

/-! ## Changes of searchable fields -/

theorem asStale_asStale (entry : Entry) : entry.asStale.asStale = entry.asStale := rfl

/-- Once the fields of a type change, every entry of the type is stale, and no other is touched. -/
theorem markType_inv {before after : Store} (holds : before.Holds ids)
    {outcome : Except Failure Unit} (runs : Runs (markType entityType) before outcome after) :
    outcome = .ok () ∧ before.Becomes (fun owner =>
      if owner.entityType = entityType then (before.find? owner).map Entry.asStale
      else before.find? owner) after := by
  obtain ⟨owners, listing, isOwner⟩ := Store.ownerIds_eq_ok holds.opened entityType
  have idempotent (_ : Ref) (held : Option Entry) :
      (held.map Entry.asStale).map Entry.asStale = held.map Entry.asStale := by
    cases held with
    | none => rfl
    | some entry => exact congrArg some (asStale_asStale entry)
  rcases runs.bind_inv with ⟨found, start, looked, rest⟩ | ⟨failure, -, looked⟩
  · obtain ⟨same, rfl⟩ := looked.query_inv
    rw [listing] at same
    cases same
    have marked {result : Except Failure (List Bool)} {finish : Store}
        (ran : Runs (Action.each (markOne entityType) owners) start result finish) :=
      Runs.each_inv (fun _ held => held.map Entry.asStale) (fun _ _ _ => True) (fun _ => False)
        idempotent (fun _ _ _ _ => trivial)
        (fun id member {first last result} sameKind step => by
          have known := holds.stored ⟨entityType, id⟩ ((isOwner id).1 member)
          have serves := holds.toServes.of_kind sameKind
          obtain ⟨same, placed⟩ :=
            markStale_inv serves.opened (serves.accepts id known) step.holding_inv
          exact Or.inr ⟨⟨_, same, trivial⟩, placed.toBecomes⟩) ran
    rcases rest.bind_inv with ⟨marks, middle, ran, rest⟩ | ⟨failure, rfl, ran⟩
    · rcases marked ran with ⟨failure, -, impossible⟩ | ⟨-, becomes⟩
      · exact impossible.elim
      have finished : outcome = .ok () ∧ after = middle := by
        dsimp only at rest
        split at rest
        · exact (rest.bind_quiet_inv Runs.count_inv).note_inv
        · exact rest.pure_inv
      obtain ⟨rfl, rfl⟩ := finished
      refine ⟨rfl, becomes.kind, ?_⟩
      rw [becomes.found]
      funext owner
      obtain ⟨ownerType, id⟩ := owner
      by_cases isType : ownerType = entityType
      · subst isType
        by_cases present : (start.find? ⟨ownerType, id⟩).isSome = true
        · simp only [tending, true_and, (isOwner id).2 present, if_true]
        · have absent : start.find? ⟨ownerType, id⟩ = none := by simpa using present
          simp only [tending, absent, Option.map_none, ite_self]
      · simp only [tending, isType, false_and, if_false]
    · rcases marked ran with ⟨failure, -, impossible⟩ | ⟨⟨values, impossible, -⟩, -⟩
      · exact impossible.elim
      · cases impossible
  · obtain ⟨same, -⟩ := looked.query_inv
    rw [listing] at same
    cases same

end ShadowIndex.Index
