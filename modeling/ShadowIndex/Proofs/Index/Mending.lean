import ShadowIndex.Proofs.Host.Keyed
import ShadowIndex.Proofs.Host.Reflection
import ShadowIndex.Proofs.Index.Notification
import ShadowIndex.Proofs.Index.Relating
import ShadowIndex.Proofs.Index.Search

/-!
Contract: what work on the index leaves of it, whatever fails and whichever ids it meets.

Owns:
- `Index.Mends`, changes after which every touched entry is sound and can be held by the store;
- searches, full rebuilds and notifications mend any store, also one that cannot hold their ids
  (`respects_search`, `respects_rebuildAll`, `respects_onChange`);
- `Index.settled_onChange`: whether or not a notification fails, the entry of the changed record is
  sound.

Does not own: which failures there are.
-/

set_option autoImplicit false

namespace ShadowIndex

/-! ## Writes that succeed -/

namespace Store

variable {store after : Store} {entityType : String} {id : Id}

theorem serves_of_ownerOf {owner : Option Ref}
    (named : store.ownerOf entityType id.value = .ok owner) :
    store.requireOpen = .ok () ∧ store.Accepts id := by
  have looked : store.get entityType id.value = .ok (owner.bind store.find?) := by
    rw [get, named]
    rfl
  exact serves_of_get looked

/-- A removal that succeeds changes nothing, or names an id that the store can hold. -/
theorem delete_cases {present : Bool}
    (deleted : store.delete entityType id.value = .ok (present, after)) :
    after = store ∨ store.requireOpen = .ok () ∧ store.Accepts id := by
  unfold delete at deleted
  by_cases vacant : store.isVacant = true
  · simp only [vacant, if_true, pure, Except.pure, Except.ok.injEq, Prod.mk.injEq] at deleted
    exact Or.inl deleted.2.symm
  · right
    cases named : store.ownerOf entityType id.value with
    | ok owner => exact serves_of_ownerOf named
    | error failure => simp [vacant, named, bind, Except.bind] at deleted

theorem serves_of_ensureStale {given : Entry × Store}
    (ensured : store.ensureStale entityType id.value = .ok given) :
    store.requireOpen = .ok () ∧ store.Accepts id := by
  unfold ensureStale at ensured
  cases looked : store.get entityType id.value with
  | ok held => exact serves_of_get looked
  | error failure => simp [looked, bind, Except.bind] at ensured

theorem serves_of_upsert {entry : Entry} (written : store.upsert entry = .ok after) :
    store.requireOpen = .ok () ∧ store.Accepts entry.owner.id := by
  cases store with
  | memory entries => exact ⟨rfl, trivial⟩
  | database table =>
      simp only [upsert, bind, Except.bind] at written
      cases ready : table.requireTable with
      | error failure => simp [ready] at written
      | ok done =>
          cases bound : Database.bindId entry.owner.id with
          | error failure => simp [ready, bound] at written
          | ok done => exact ⟨ready, bound⟩

/-- An open store that holds entries only of ids that it can hold. -/
def IsProper (store : Store) : Prop := store.Holds store.Accepts

theorem IsProper.of_kind (holds : after.Holds store.Accepts) (same : after.kind = store.kind) :
    after.IsProper :=
  ⟨⟨holds.opened, fun _ accepts => accepts⟩, fun owner present =>
    accepts_of_kind same (holds.stored owner present)⟩

end Store

namespace Index

variable {α : Type} {catalog : Catalog} {source : Source} {entityType : String} {id : Id}
variable {before after : Store}

/-- A store after work that left each entry as it was, or sound and of an id that the store can
hold. -/
def Mends (catalog : Catalog) (source : Source) (before after : Store) : Prop :=
  Upkeep catalog source (fun owner => before.Accepts owner.id) before after

instance : IsPreorder Store (Mends catalog source) where
  refl := fun store => Upkeep.refl store
  trans := by
    intro before middle after first second
    apply Upkeep.trans first
    apply Upkeep.mono second
    intro owner accepts
    exact Store.accepts_of_kind first.kind.symm accepts

theorem Mends.proper (mends : Mends catalog source before after) (proper : before.IsProper) :
    after.IsProper :=
  .of_kind (Upkeep.holds mends (fun _ accepts => accepts) proper) mends.kind

/-! ## Single entries -/

theorem respects_upsert {owner : Ref} {entry : Entry} (builds : catalog.Builds source owner entry) :
    Respects (Mends catalog source) (upsert entry) := by
  intro before after outcome runs
  obtain rfl := builds.owner_eq
  rcases runs.write_inv with ⟨value, written, -⟩ | ⟨failure, -, -, rfl⟩
  · cases isWritten : before.upsert entry with
    | error failure =>
        rw [isWritten] at written
        cases written
    | ok store =>
        obtain ⟨opened, accepts⟩ := Store.serves_of_upsert isWritten
        obtain ⟨-, placed⟩ := upsert_inv opened accepts runs
        refine Upkeep.of_update placed (Or.inr ⟨accepts, ?_⟩)
        rintro _ ⟨⟩ _
        exact builds
  · exact Upkeep.refl _

theorem respects_delete : Respects (Mends catalog source) (delete entityType id.value) := by
  intro before after outcome runs
  rcases runs.write_inv with ⟨present, deleted, -⟩ | ⟨failure, -, -, rfl⟩
  · rcases Store.delete_cases deleted with rfl | ⟨opened, accepts⟩
    · exact Upkeep.refl _
    · obtain ⟨-, placed⟩ := delete_inv opened accepts runs
      exact Upkeep.of_update placed (Or.inr ⟨accepts, sound_none _⟩)
  · exact Upkeep.refl _

theorem respects_ensureStale :
    Respects (Mends catalog source) (ensureStale entityType id.value) := by
  intro before after outcome runs
  rcases runs.write_inv with ⟨entry, ensured, -⟩ | ⟨failure, -, -, rfl⟩
  · obtain ⟨opened, accepts⟩ := Store.serves_of_ensureStale ensured
    rcases ensureStale_cases opened accepts runs with ⟨-, placed⟩ | ⟨-, rfl⟩
    · exact Upkeep.of_update placed
        (Or.inr ⟨accepts, sound_of_stale (Store.staleEntry_stale before _)⟩)
    · exact Upkeep.refl _
  · exact Upkeep.refl _

/-! ## Rebuilds -/

theorem respects_rebuild :
    Respects (Mends catalog source) (rebuild catalog source entityType id.value) := by
  refine Respects.bind (respects_reading _) ?_
  rintro rebuilt? ⟨start, finish, ran⟩
  obtain ⟨⟨streams, built⟩, -⟩ := ran.reading_inv
  cases rebuilt? with
  | none =>
      apply respects_delete.bind
      intro _ _
      exact (respects_note _).bind fun _ _ => respects_pure _
  | some entry =>
      have builds : catalog.Builds source ⟨entityType, id⟩ entry := ⟨streams, built.symm⟩
      apply (respects_upsert builds).bind
      intro _ _
      exact (respects_count _ _ _).bind fun _ _ => respects_pure _

theorem respects_reindexOne :
    Respects (Mends catalog source) (reindexOne catalog source entityType id.value) := by
  apply (respects_rebuild.holding entityType id).bind
  intro entry _
  dsimp only
  split
  · exact (respects_discardLock entityType id).bind fun _ _ => respects_pure _
  · exact respects_pure _

theorem respects_refreshHeld :
    Respects (Mends catalog source) (refreshHeld catalog source entityType id) := by
  refine Respects.bind (respects_query _) ?_
  intro held? _
  cases held? with
  | none => exact respects_pure _
  | some current =>
      dsimp only
      split
      · exact respects_pure _
      · apply respects_rebuild.attempt.bind
        intro result _
        split
        · exact respects_pure _
        · exact respects_pure _
        · split
          · refine Respects.bind (respects_note _) ?_
            intro _ _
            exact (respects_count _ _ _).bind fun _ _ => respects_pure _
          · exact respects_fail _

theorem respects_refresh :
    Respects (Mends catalog source) (refresh catalog source entityType id) := by
  apply (respects_refreshHeld.holding entityType id).bind
  intro outcome _
  dsimp only
  split
  · exact (respects_discardLock entityType id).bind fun _ _ => respects_pure _
  · exact respects_pure _

theorem respects_refreshAll :
    Respects (Mends catalog source) (refreshAll catalog source entityType) := by
  refine Respects.bind (respects_query _) ?_
  intro stale _
  apply (respects_each fun id _ => respects_refresh).bind
  intro members _
  refine Respects.bind (respects_emit _) ?_
  intro _ _
  exact (respects_emit _).bind fun _ _ => respects_pure _

theorem respects_reindexAll :
    Respects (Mends catalog source) (reindexAll catalog source entityType) := by
  apply ((respects_refreshAll.span _ _).bound _).bind
  intro report _
  dsimp only
  split
  · exact (respects_note _).bind fun _ _ => respects_pure _
  · exact respects_pure _

/-! ## Searches -/

theorem respects_freshEntry :
    Respects (Mends catalog source) (freshEntry catalog source entityType id.value) := by
  refine Respects.bind (respects_query _) ?_
  intro stored _
  split
  · exact respects_pure _
  · split
    · exact respects_pure _
    · apply respects_reindexOne.attempt.bind
      intro result _
      split
      · exact respects_pure _
      · split
        · exact (respects_note _).bind fun _ _ => respects_pure _
        · exact respects_fail _

theorem respects_hit (query : Query) :
    Respects (Mends catalog source) (hit catalog source entityType query id.value) :=
  respects_freshEntry.bind fun _ _ => respects_pure _

theorem respects_parse (text : Option String) : Respects (Mends catalog source) (parse text) :=
  respects_of_quiet fun runs => (parse_inv runs).2

theorem respects_examine (query : Query) {candidates : List Value}
    (areIds : ∀ candidate ∈ candidates, ∃ id : Id, candidate = id.value) :
    Respects (Mends catalog source) (examine catalog source entityType query candidates) := by
  have looked : Respects (Mends catalog source) (do
      let hits ← Action.each (hit catalog source entityType query) candidates
      emit (.setAttribute "record_search.results" (.int (hits.filterMap id).length))
      return (⟨hits.filterMap id, some candidates.length⟩ : Found)) := by
    have each : ∀ candidate ∈ candidates,
        Respects (Mends catalog source) (hit catalog source entityType query candidate) := by
      intro candidate member
      obtain ⟨id, rfl⟩ := areIds candidate member
      exact respects_hit query
    apply (respects_each each).bind
    intro hits _
    exact (respects_emit _).bind fun _ _ => respects_pure _
  unfold examine
  dsimp only
  split
  · exact (respects_note _).bind fun _ _ => respects_pure _
  · split
    · exact (respects_note _).bind fun _ _ => respects_pure _
    · split
      · exact respects_reindexAll.bind fun _ _ => looked
      · exact looked

section Candidates

variable {host : Host} {ids : Id → Prop} (keyed : host.IsKeyed ids)
variable (reflects : source.Reflects host)
include keyed reflects

theorem respects_find (query : Query) (scope : Scope) :
    Respects (Mends catalog source) (find catalog source entityType query scope) := by
  refine Respects.bind (respects_reading _) ?_
  rintro candidates ⟨start, finish, ran⟩
  obtain ⟨⟨streams, listed⟩, -⟩ := ran.reading_inv
  split
  · exact respects_pure _
  · apply respects_examine query
    intro candidate member
    obtain ⟨id, isId, -⟩ := keyed.isLive_of_candidates (reflects.candidates listed.symm) member
    exact ⟨id, isId⟩

/-- A search mends every store, whatever it finds. -/
theorem respects_search (text : Option String) (scope : Scope) :
    Respects (Mends catalog source) (search catalog source entityType text scope) := by
  apply (respects_parse text).bind
  intro query _
  refine Respects.bind (respects_count _ _ _) ?_
  intro _ _
  apply ((((respects_find keyed reflects query scope).span _ _).timed _).bound _).bind
  intro found _
  dsimp only
  split
  · exact (respects_note _).bind fun _ _ => respects_pure _
  · exact respects_pure _

/-- A full rebuild of a type mends every store. -/
theorem respects_rebuildAll :
    Respects (Mends catalog source) (rebuildAll catalog source entityType) := by
  refine Respects.bind (respects_reading _) ?_
  rintro candidates ⟨start, finish, ran⟩
  obtain ⟨⟨streams, given⟩, -⟩ := ran.reading_inv
  have listed := reflects.candidates given.symm
  refine Respects.bind (respects_lift _) ?_
  intro keys _
  refine Respects.bind (respects_query _) ?_
  intro owners _
  have dropped (id : Id) : Respects (Mends catalog source) (dropOrphan entityType id) :=
    (respects_delete.holding entityType id).bind fun _ _ => respects_discardLock entityType id
  apply (respects_each fun id _ => dropped id).bind
  intro _ _
  have flagged : ∀ candidate ∈ candidates, Respects (Mends catalog source)
      (holding entityType candidate (ensureStale entityType candidate)) := by
    intro candidate member
    obtain ⟨id, rfl, -⟩ := keyed.isLive_of_candidates listed member
    exact respects_ensureStale.holding entityType id
  apply (respects_each flagged).bind
  intro _ _
  exact respects_reindexAll.bind fun _ _ => respects_pure _

end Candidates

/-! ## Notifications -/

/-- What an invalidation does once the entry is flagged. -/
theorem respects_afterFlag (cause : String) : Respects (Mends catalog source) (do
    count .staleMarks [("cause", cause), ("entity_type", entityType)] 1
    if !catalog.settings.eagerReindex then return ()
    match ← (reindexOne catalog source entityType id.value).attempt with
    | .ok _ => return ()
    | .error failure =>
        if isRebuildFailure failure then note (.eagerFailed failure)
        else Action.fail failure) := by
  refine Respects.bind (respects_count _ _ _) ?_
  intro _ _
  split
  · exact respects_pure _
  · apply respects_reindexOne.attempt.bind
    intro result _
    split
    · exact respects_pure _
    · split
      · exact respects_note _
      · exact respects_fail _

theorem respects_invalidate (cause : String) :
    Respects (Mends catalog source) (invalidate catalog source cause entityType id.value) := by
  unfold invalidate
  split
  · exact respects_pure _
  · apply (respects_ensureStale.holding entityType id).bind
    exact fun _ _ => respects_afterFlag cause

theorem respects_cascadeAlong (edge : Dependency) :
    Respects (Mends catalog source) (cascadeAlong catalog source entityType id.value edge) := by
  unfold cascadeAlong
  split
  · exact respects_note _
  · refine Respects.bind (respects_reading _).attempt ?_
    intro resolved _
    split
    · exact respects_fail _
    · apply (respects_each fun _ _ => respects_invalidate _).bind
      intro _ _
      split
      · exact respects_note _
      · exact respects_pure _

theorem respects_cascade :
    Respects (Mends catalog source) (cascade catalog source entityType id.value) :=
  (respects_each fun edge _ => respects_cascadeAlong edge).bind fun _ _ => respects_pure _

theorem respects_forget : Respects (Mends catalog source) (forget entityType id.value) := by
  have removed : Respects (Mends catalog source) (do
      if ← delete entityType id.value then note (.entryDeleted entityType id.value)) := by
    apply respects_delete.bind
    intro present _
    split
    · exact respects_note _
    · exact respects_pure _
  exact (removed.holding entityType id).bind fun _ _ => respects_discardLock entityType id

/-- A notification mends every store, whether or not it fails. -/
theorem respects_onChange (kind : ChangeKind) :
    Respects (Mends catalog source) (onChange catalog source ⟨kind, entityType, id.value⟩) := by
  apply Respects.bound
  cases kind with
  | destroy => exact respects_forget.bind fun _ _ => respects_cascade
  | create => exact (respects_invalidate _).bind fun _ _ => respects_cascade
  | update => exact (respects_invalidate _).bind fun _ _ => respects_cascade

/-! ## The changed record -/

/-- An entry that is to be flagged is sound afterwards: a store that holds it can flag it. -/
theorem settled_ensureStale (proper : before.IsProper) {outcome : Except Failure Entry}
    (runs : Runs (ensureStale entityType id.value) before outcome after) :
    catalog.Sound source ⟨entityType, id⟩ (after.find? ⟨entityType, id⟩) := by
  by_cases present : (before.find? ⟨entityType, id⟩).isSome = true
  · obtain ⟨-, placed⟩ := ensureStale_inv proper.opened (Or.inr present)
      (proper.stored ⟨entityType, id⟩ present) runs
    rw [placed.found, Function.update_self]
    exact sound_of_stale (Store.staleEntry_stale before _)
  · have absent : before.find? ⟨entityType, id⟩ = none := by simpa using present
    apply Upkeep.sound (respects_ensureStale runs)
    rw [absent]
    exact sound_none _

theorem settled_forget (proper : before.IsProper) {outcome : Except Failure Unit}
    (runs : Runs (forget entityType id.value) before outcome after) :
    catalog.Sound source ⟨entityType, id⟩ (after.find? ⟨entityType, id⟩) := by
  by_cases present : (before.find? ⟨entityType, id⟩).isSome = true
  · obtain ⟨-, placed⟩ := runs.forget_inv proper.opened (proper.stored ⟨entityType, id⟩ present)
    rw [placed.found, Function.update_self]
    exact sound_none _
  · have absent : before.find? ⟨entityType, id⟩ = none := by simpa using present
    apply Upkeep.sound (respects_forget runs)
    rw [absent]
    exact sound_none _

theorem settled_invalidate (proper : before.IsProper)
    (registered : catalog.registry.isRegistered entityType = true) {cause : String}
    {outcome : Except Failure Unit}
    (runs : Runs (invalidate catalog source cause entityType id.value) before outcome after) :
    catalog.Sound source ⟨entityType, id⟩ (after.find? ⟨entityType, id⟩) := by
  simp only [invalidate, registered, Bool.not_true, Bool.false_eq_true, if_false] at runs
  rcases runs.bind_inv with ⟨entry, middle, flagged, rest⟩ | ⟨failure, -, flagged⟩
  · exact Upkeep.sound (respects_afterFlag cause rest) (settled_ensureStale proper flagged.holding_inv)
  · exact settled_ensureStale proper flagged.holding_inv

/-- Whether or not a notification fails, the entry of the changed record is sound afterwards, if the
record is gone or its type has fields. -/
theorem settled_onChange (proper : before.IsProper) {kind : ChangeKind}
    (told : kind = .destroy ∨ catalog.registry.isRegistered entityType = true)
    {outcome : Except Failure Unit}
    (runs : Runs (onChange catalog source ⟨kind, entityType, id.value⟩) before outcome after) :
    catalog.Sound source ⟨entityType, id⟩ (after.find? ⟨entityType, id⟩) := by
  -- What is settled first stays so through the cascade.
  have throughout {step : Action Index Unit}
      (settled : ∀ {middle : Store} {result : Except Failure Unit}, Runs step before result middle →
        catalog.Sound source ⟨entityType, id⟩ (middle.find? ⟨entityType, id⟩))
      (ran : Runs (step >>= fun _ => cascade catalog source entityType id.value) before outcome
        after) :
      catalog.Sound source ⟨entityType, id⟩ (after.find? ⟨entityType, id⟩) := by
    rcases ran.bind_inv with ⟨value, middle, first, rest⟩ | ⟨failure, -, first⟩
    · exact Upkeep.sound (respects_cascade rest) (settled first)
    · exact settled first
  cases kind with
  | destroy => exact throughout (settled_forget proper) runs.bound_inv
  | create =>
      have registered := told.resolve_left (by simp)
      exact throughout (settled_invalidate proper registered) runs.bound_inv
  | update =>
      have registered := told.resolve_left (by simp)
      exact throughout (settled_invalidate proper registered) runs.bound_inv

end Index

end ShadowIndex
