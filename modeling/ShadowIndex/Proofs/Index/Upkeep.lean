import ShadowIndex.Index.Search
import ShadowIndex.Proofs.Index.Rebuild

/-!
Contract: no work on the index makes an entry look fresh that no build gave.

Owns:
- `Catalog.Sound`, entries that are stale or that a build of their record can give;
- `Index.Upkeep`, changes of a store after which every touched entry is sound;
- batches, searches and full rebuilds are upkeep (`isUpkeep_reindexAll`, `isUpkeep_search`,
  `isUpkeep_rebuildAll`).

Does not own: what changes of records do.
-/

set_option autoImplicit false

namespace ShadowIndex

/-- No entry, a stale one, or one that a build of the record can give. -/
def Catalog.Sound (catalog : Catalog) (source : Source) (owner : Ref) (held : Option Entry) :
    Prop :=
  ∀ entry, held = some entry → entry.content.stale = false → catalog.Builds source owner entry

/-- A store that serves certain ids and holds entries of no others. -/
structure Store.Holds (store : Store) (ids : Id → Prop) : Prop extends store.Serves ids where
  stored : ∀ owner, (store.find? owner).isSome → ids owner.id

namespace Index

/-- A store after work that touched entries of some owners and left them sound. -/
structure Upkeep (catalog : Catalog) (source : Source) (owners : Ref → Prop)
    (before after : Store) : Prop where
  kind : after.kind = before.kind
  found : ∀ owner, after.find? owner = before.find? owner ∨
    owners owner ∧ catalog.Sound source owner (after.find? owner)

variable {α β : Type} {catalog : Catalog} {source : Source} {ids : Id → Prop}
variable {owners more : Ref → Prop} {before middle after : Store} {entityType : String}

namespace Upkeep

theorem refl (store : Store) : Upkeep catalog source owners store store :=
  ⟨rfl, fun _ => Or.inl rfl⟩

theorem trans (first : Upkeep catalog source owners before middle)
    (second : Upkeep catalog source owners middle after) :
    Upkeep catalog source owners before after where
  kind := second.kind.trans first.kind
  found := by
    intro owner
    rcases second.found owner with same | touched
    · rw [same]
      exact first.found owner
    · exact Or.inr touched

theorem mono (upkeep : Upkeep catalog source owners before after)
    (wider : ∀ owner, owners owner → more owner) : Upkeep catalog source more before after where
  kind := upkeep.kind
  found := fun owner => (upkeep.found owner).imp_right fun touched =>
    ⟨wider owner touched.1, touched.2⟩

/-- Owners that the work does not touch keep their entries. -/
theorem frame (upkeep : Upkeep catalog source owners before after) {owner : Ref}
    (outside : ¬ owners owner) : after.find? owner = before.find? owner :=
  (upkeep.found owner).resolve_right fun touched => outside touched.1

/-- An entry that is sound stays so. -/
theorem sound (upkeep : Upkeep catalog source owners before after) {owner : Ref}
    (sound : catalog.Sound source owner (before.find? owner)) :
    catalog.Sound source owner (after.find? owner) := by
  rcases upkeep.found owner with same | touched
  · rw [same]
    exact sound
  · exact touched.2

theorem holds (upkeep : Upkeep catalog source owners before after)
    (within : ∀ owner, owners owner → ids owner.id) (holds : before.Holds ids) :
    after.Holds ids where
  toServes := holds.toServes.of_kind upkeep.kind
  stored := by
    intro owner present
    rcases upkeep.found owner with same | touched
    · rw [same] at present
      exact holds.stored owner present
    · exact within owner touched.1

/-- A change of one entry is upkeep if it leaves the entry as it was, or sound. -/
theorem of_update {owner : Ref} {held : Option Entry}
    (placed : before.Places owner held after)
    (settled : held = before.find? owner ∨ owners owner ∧ catalog.Sound source owner held) :
    Upkeep catalog source owners before after where
  kind := placed.kind
  found := by
    intro other
    rw [placed.found]
    by_cases same : other = owner
    · subst same
      rw [Function.update_self]
      exact settled
    · rw [Function.update_of_ne same]
      exact Or.inl rfl

end Upkeep

/-! ## Sound entries -/

theorem sound_none (owner : Ref) : catalog.Sound source owner none := by
  intro entry impossible
  cases impossible

theorem sound_of_stale {owner : Ref} {entry : Entry} (stale : entry.content.stale = true) :
    catalog.Sound source owner (some entry) := by
  intro other same fresh
  cases same
  rw [stale] at fresh
  cases fresh

/-- A build leaves a sound entry, unless it fails. -/
theorem settled_afterRebuild {id : Id} {result : Except Failure (Option Entry)}
    (built : ∃ streams, result = (catalog.liveEntry source entityType id.value streams).1)
    (held : Option Entry) : afterRebuild result held = held ∨
      catalog.Sound source ⟨entityType, id⟩ (afterRebuild result held) := by
  obtain ⟨streams, rfl⟩ := built
  cases given : (catalog.liveEntry source entityType id.value streams).1 with
  | error failure => exact Or.inl rfl
  | ok rebuilt? =>
      right
      intro entry same _
      have isEntry : rebuilt? = some entry := same
      exact ⟨streams, by rw [given, isEntry]⟩

theorem settled_refreshed {id : Id} {result : Except Failure (Option Entry)}
    (built : ∃ streams, result = (catalog.liveEntry source entityType id.value streams).1)
    (held : Option Entry) : refreshed result held = held ∨
      catalog.Sound source ⟨entityType, id⟩ (refreshed result held) := by
  unfold refreshed
  split
  · exact settled_afterRebuild built held
  · exact Or.inl rfl

/-! ## Upkeep by actions -/

/-- An action that is upkeep on every store that holds certain ids. -/
def IsUpkeep (catalog : Catalog) (source : Source) (ids : Id → Prop) (owners : Ref → Prop)
    (action : Action Index α) : Prop :=
  ∀ ⦃before after : Store⦄ ⦃outcome : Except Failure α⦄, before.Holds ids →
    Runs action before outcome after → Upkeep catalog source owners before after

theorem isUpkeep_of_quiet {action : Action Index α}
    (quiet : ∀ {before after : Store} {outcome : Except Failure α},
      Runs action before outcome after → after = before) :
    IsUpkeep catalog source ids owners action := by
  intro before after outcome _ runs
  rw [quiet runs]
  exact Upkeep.refl before

theorem isUpkeep_pure (value : α) : IsUpkeep catalog source ids owners (pure value) :=
  isUpkeep_of_quiet fun runs => runs.pure_inv.2

theorem isUpkeep_lift (outcome : Except Failure α) :
    IsUpkeep catalog source ids owners (Action.lift outcome) :=
  isUpkeep_of_quiet fun runs => runs.lift_inv.2

theorem isUpkeep_reading (action : Action Streams α) :
    IsUpkeep catalog source ids owners (reading action) :=
  isUpkeep_of_quiet fun runs => runs.reading_inv.2

theorem isUpkeep_note (note : Note) : IsUpkeep catalog source ids owners (Index.note note) :=
  isUpkeep_of_quiet fun runs => runs.note_inv.2

theorem isUpkeep_emit (event : Event) : IsUpkeep catalog source ids owners (emit event) :=
  isUpkeep_of_quiet fun runs => runs.emit_inv.2

theorem isUpkeep_count (metric : Metric) (labels : List (String × String)) (amount : Nat) :
    IsUpkeep catalog source ids owners (count metric labels amount) :=
  isUpkeep_of_quiet fun runs => runs.count_inv.2

theorem isUpkeep_discardLock (id : Id) :
    IsUpkeep catalog source ids owners (discardLock entityType id.value) :=
  isUpkeep_of_quiet fun runs => runs.discardLock_inv.2

/-- A sequence of upkeep is upkeep; the second part may rely on the value of the first. -/
theorem IsUpkeep.bind (within : ∀ owner, owners owner → ids owner.id) {action : Action Index α}
    {next : α → Action Index β} (first : IsUpkeep catalog source ids owners action)
    (rest : ∀ value, (∃ start finish, start.Holds ids ∧ Runs action start (.ok value) finish) →
      IsUpkeep catalog source ids owners (next value)) :
    IsUpkeep catalog source ids owners (action >>= next) := by
  intro before after outcome holds runs
  rcases runs.bind_inv with ⟨value, middle, ran, later⟩ | ⟨failure, -, ran⟩
  · have upkeep := first holds ran
    exact upkeep.trans
      (rest value ⟨before, middle, holds, ran⟩ (upkeep.holds within holds) later)
  · exact first holds ran

theorem isUpkeep_each (within : ∀ owner, owners owner → ids owner.id)
    {action : α → Action Index β} {items : List α}
    (step : ∀ item ∈ items, IsUpkeep catalog source ids owners (action item)) :
    IsUpkeep catalog source ids owners (Action.each action items) := by
  induction items with
  | nil => exact isUpkeep_pure []
  | cons item rest inductionHypothesis =>
      apply IsUpkeep.bind within (step item (by simp))
      intro value _
      apply IsUpkeep.bind within
      · exact inductionHypothesis fun other member => step other (by simp [member])
      · exact fun values _ => isUpkeep_pure (value :: values)

theorem IsUpkeep.attempt {action : Action Index α}
    (upkeep : IsUpkeep catalog source ids owners action) :
    IsUpkeep catalog source ids owners action.attempt := by
  intro before after outcome holds runs
  obtain ⟨inner, -, ran⟩ := runs.attempt_inv
  exact upkeep holds ran

theorem IsUpkeep.holding {work : Action Index α} (upkeep : IsUpkeep catalog source ids owners work)
    (id : Id) : IsUpkeep catalog source ids owners (holding entityType id.value work) :=
  fun _ _ _ holds runs => upkeep holds runs.holding_inv

theorem IsUpkeep.bound {work : Action Index α} (upkeep : IsUpkeep catalog source ids owners work)
    (fields : List (String × Value)) : IsUpkeep catalog source ids owners (bound fields work) :=
  fun _ _ _ holds runs => upkeep holds runs.bound_inv

theorem IsUpkeep.span {work : Action Index α} (upkeep : IsUpkeep catalog source ids owners work)
    (name : String) (attributes : List (String × Value)) :
    IsUpkeep catalog source ids owners (span name attributes work) :=
  fun _ _ _ holds runs => upkeep holds runs.span_inv

theorem IsUpkeep.timed {work : Action Index α} (upkeep : IsUpkeep catalog source ids owners work)
    (labels : List (String × String)) : IsUpkeep catalog source ids owners (timed labels work) :=
  fun _ _ _ holds runs => upkeep holds runs.timed_inv

/-! ## Single records -/

section Records

variable {id : Id} (known : ids id) (reached : owners ⟨entityType, id⟩)
include known reached

theorem isUpkeep_reindexOne :
    IsUpkeep catalog source ids owners (reindexOne catalog source entityType id.value) := by
  intro before after outcome holds runs
  obtain ⟨built, placed⟩ := reindexOne_inv holds.opened (holds.accepts id known) runs
  apply Upkeep.of_update placed
  exact (settled_afterRebuild built _).imp_right fun sound => ⟨reached, sound⟩

theorem isUpkeep_refresh :
    IsUpkeep catalog source ids owners (refresh catalog source entityType id) := by
  intro before after outcome holds runs
  obtain ⟨result, built, placed, -⟩ := refresh_inv holds.opened (holds.accepts id known) runs
  apply Upkeep.of_update placed
  exact (settled_refreshed built _).imp_right fun sound => ⟨reached, sound⟩

theorem isUpkeep_delete : IsUpkeep catalog source ids owners (delete entityType id.value) := by
  intro before after outcome holds runs
  obtain ⟨-, placed⟩ := delete_inv holds.opened (holds.accepts id known) runs
  exact Upkeep.of_update placed (Or.inr ⟨reached, sound_none _⟩)

theorem isUpkeep_ensureStale :
    IsUpkeep catalog source ids owners (ensureStale entityType id.value) := by
  intro before after outcome holds runs
  rcases ensureStale_cases holds.opened (holds.accepts id known) runs with ⟨-, placed⟩ | ⟨-, rfl⟩
  · exact Upkeep.of_update placed
      (Or.inr ⟨reached, sound_of_stale (Store.staleEntry_stale before _)⟩)
  · exact Upkeep.refl _

theorem isUpkeep_freshEntry :
    IsUpkeep catalog source ids owners (freshEntry catalog source entityType id.value) := by
  have looked : IsUpkeep catalog source ids owners (entry entityType id.value) :=
    isUpkeep_of_quiet fun runs => runs.query_inv.2
  intro before after outcome holds runs
  rcases runs.bind_inv with ⟨stored, middle, ran, rest⟩ | ⟨failure, -, ran⟩
  · obtain ⟨-, rfl⟩ := ran.query_inv
    split at rest
    · exact isUpkeep_pure _ holds rest
    · split at rest
      · exact isUpkeep_pure _ holds rest
      · rcases rest.bind_inv with ⟨result, last, tried, finish⟩ | ⟨failure, -, tried⟩
        · have upkeep := (isUpkeep_reindexOne known reached).attempt holds tried
          have same : after = last := by
            split at finish
            · exact finish.pure_inv.2
            · split at finish
              · exact (finish.bind_quiet_inv Runs.note_inv).pure_inv.2
              · exact finish.fail_inv.2
          rwa [same]
        · exact (isUpkeep_reindexOne known reached).attempt holds tried
  · exact looked holds ran

theorem isUpkeep_hit (query : Query) :
    IsUpkeep catalog source ids owners (hit catalog source entityType query id.value) := by
  intro before after outcome holds runs
  rcases runs.bind_inv with ⟨fresh, middle, ran, rest⟩ | ⟨failure, -, ran⟩
  · obtain ⟨-, rfl⟩ := rest.pure_inv
    exact isUpkeep_freshEntry known reached holds ran
  · exact isUpkeep_freshEntry known reached holds ran

end Records

/-! ## Batches and searches -/

section Everywhere

/-- Any owner whose id is known. -/
abbrev everywhere (ids : Id → Prop) : Ref → Prop := fun owner => ids owner.id

theorem isUpkeep_refreshAll :
    IsUpkeep catalog source ids (everywhere ids) (refreshAll catalog source entityType) := by
  apply IsUpkeep.bind fun _ known => known
  · exact isUpkeep_of_quiet fun runs => runs.query_inv.2
  · rintro stale ⟨start, finish, holds, ran⟩
    obtain ⟨listed, listing, isMember⟩ := Store.allStaleFor_eq_ok holds.opened entityType
    have same := ran.query_inv.1
    rw [listing] at same
    cases same
    apply IsUpkeep.bind fun _ known => known
    · apply isUpkeep_each fun _ known => known
      intro id member
      obtain ⟨entry, found, -⟩ := (Option.any_eq_true _ _).1 ((isMember id).1 member)
      have known : ids id := holds.stored ⟨entityType, id⟩ (by simp [found])
      exact isUpkeep_refresh known known
    · intro members _
      apply IsUpkeep.bind (fun _ known => known) (isUpkeep_emit _)
      intro _ _
      apply IsUpkeep.bind (fun _ known => known) (isUpkeep_emit _)
      exact fun _ _ => isUpkeep_pure _

theorem isUpkeep_reindexAll :
    IsUpkeep catalog source ids (everywhere ids) (reindexAll catalog source entityType) := by
  apply IsUpkeep.bind fun _ known => known
  · exact (isUpkeep_refreshAll.span _ _).bound _
  · intro report _
    dsimp only
    split
    · apply IsUpkeep.bind (fun _ known => known) (isUpkeep_note _)
      exact fun _ _ => isUpkeep_pure _
    · exact isUpkeep_pure _

/-- The candidates that are listed for a type, in any scope, have known ids. -/
def ListsKnown (source : Source) (ids : Id → Prop) (entityType : String) : Prop :=
  ∀ scope streams candidates, (source.candidates entityType scope streams).1 = .ok candidates →
    ∀ candidate ∈ candidates, ∃ id : Id, candidate = id.value ∧ ids id

theorem isUpkeep_examine (query : Query) {candidates : List Value}
    (known : ∀ candidate ∈ candidates, ∃ id : Id, candidate = id.value ∧ ids id) :
    IsUpkeep catalog source ids (everywhere ids)
      (examine catalog source entityType query candidates) := by
  have looked : IsUpkeep catalog source ids (everywhere ids) (do
      let hits ← Action.each (hit catalog source entityType query) candidates
      emit (.setAttribute "record_search.results" (.int (hits.filterMap id).length))
      return (⟨hits.filterMap id, some candidates.length⟩ : Found)) := by
    apply IsUpkeep.bind fun _ known => known
    · apply isUpkeep_each fun _ known => known
      intro candidate member
      obtain ⟨id, rfl, isKnown⟩ := known candidate member
      exact isUpkeep_hit isKnown isKnown query
    · intro hits _
      apply IsUpkeep.bind (fun _ known => known) (isUpkeep_emit _)
      exact fun _ _ => isUpkeep_pure _
  unfold examine
  dsimp only
  split
  · apply IsUpkeep.bind (fun _ known => known) (isUpkeep_note _)
    exact fun _ _ => isUpkeep_pure _
  · split
    · apply IsUpkeep.bind (fun _ known => known) (isUpkeep_note _)
      exact fun _ _ => isUpkeep_pure _
    · split
      · apply IsUpkeep.bind (fun _ known => known) isUpkeep_reindexAll
        exact fun _ _ => looked
      · exact looked

theorem isUpkeep_find (lists : ListsKnown source ids entityType) (query : Query) (scope : Scope) :
    IsUpkeep catalog source ids (everywhere ids) (find catalog source entityType query scope) := by
  apply IsUpkeep.bind (fun _ known => known) (isUpkeep_reading _)
  rintro candidates ⟨start, finish, -, ran⟩
  obtain ⟨⟨streams, listed⟩, -⟩ := ran.reading_inv
  split
  · exact isUpkeep_pure _
  · exact isUpkeep_examine query (lists scope streams candidates listed.symm)

theorem isUpkeep_parse (text : Option String) :
    IsUpkeep catalog source ids (everywhere ids) (parse text) := by
  apply IsUpkeep.bind fun _ known => known
  · apply isUpkeep_each fun _ known => known
    intro token _
    split
    · exact isUpkeep_note _
    · exact isUpkeep_pure _
  · intro _ _
    apply IsUpkeep.bind (fun _ known => known) (isUpkeep_note _)
    exact fun _ _ => isUpkeep_pure _

/-- A search, in whichever scope, is upkeep. -/
theorem isUpkeep_search (lists : ListsKnown source ids entityType) (text : Option String)
    (scope : Scope) :
    IsUpkeep catalog source ids (everywhere ids) (search catalog source entityType text scope) := by
  apply IsUpkeep.bind (fun _ known => known) (isUpkeep_parse text)
  intro query _
  apply IsUpkeep.bind (fun _ known => known) (isUpkeep_count _ _ _)
  intro _ _
  apply IsUpkeep.bind fun _ known => known
  · exact (((isUpkeep_find lists query scope).span _ _).timed _).bound _
  · intro found _
    dsimp only
    split
    · apply IsUpkeep.bind (fun _ known => known) (isUpkeep_note _)
      exact fun _ _ => isUpkeep_pure _
    · exact isUpkeep_pure _

/-! ## Full rebuilds -/

theorem isUpkeep_dropOrphan {id : Id} (known : ids id) :
    IsUpkeep catalog source ids (everywhere ids) (dropOrphan entityType id) := by
  apply IsUpkeep.bind (fun _ known => known)
  · exact (isUpkeep_delete known known).holding id
  · exact fun _ _ => isUpkeep_discardLock id

/-- A full rebuild of a type is upkeep. -/
theorem isUpkeep_rebuildAll (lists : ListsKnown source ids entityType) :
    IsUpkeep catalog source ids (everywhere ids) (rebuildAll catalog source entityType) := by
  apply IsUpkeep.bind (fun _ known => known) (isUpkeep_reading _)
  rintro candidates ⟨start, finish, -, ran⟩
  obtain ⟨⟨streams, given⟩, -⟩ := ran.reading_inv
  have listed := lists .all streams candidates given.symm
  apply IsUpkeep.bind (fun _ known => known) (isUpkeep_lift _)
  intro keys _
  apply IsUpkeep.bind (fun _ known => known)
  · exact isUpkeep_of_quiet fun runs => runs.query_inv.2
  rintro present ⟨start, finish, holds, ran⟩
  obtain ⟨owners, listing, isOwner⟩ := Store.ownerIds_eq_ok holds.opened entityType
  have same := ran.query_inv.1
  rw [listing] at same
  cases same
  apply IsUpkeep.bind (fun _ known => known)
  · apply isUpkeep_each fun _ known => known
    intro id member
    apply isUpkeep_dropOrphan
    exact holds.stored ⟨entityType, id⟩ ((isOwner id).1 (List.mem_filter.1 member).1)
  intro _ _
  apply IsUpkeep.bind (fun _ known => known)
  · apply isUpkeep_each fun _ known => known
    intro candidate member
    obtain ⟨id, rfl, known⟩ := listed candidate member
    exact (isUpkeep_ensureStale known known).holding id
  intro _ _
  apply IsUpkeep.bind (fun _ known => known) isUpkeep_reindexAll
  exact fun _ _ => isUpkeep_pure _

end Everywhere

end Index

end ShadowIndex
