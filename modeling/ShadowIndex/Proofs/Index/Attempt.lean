import ShadowIndex.Proofs.Index.Members

/-!
Contract: all that one rebuild can do.

Owns:
- `Index.Unfailed`, results that are not the failure of a rebuild, such as all that stores refuse;
- `Index.Attempt`, how a rebuild ends: it fails for its record, or for another reason, or removes
  the entry of a record that is gone, or writes a fresh one;
- the entries that are found after each change of a store, which may be any store.

Does not own: what is done with a failure.
-/

set_option autoImplicit false

namespace ShadowIndex

/-! ## Stores -/

namespace Store

variable {store after : Store} {entityType : String}

theorem find?_of_upsert {entry : Entry} (written : store.upsert entry = .ok after) (owner : Ref) :
    after.find? owner = if owner = entry.owner then some entry else store.find? owner := by
  cases store with
  | memory kept =>
      cases written
      exact MemoryStore.find?_upsert kept entry owner
  | database table =>
      simp only [Store.upsert, bind, Except.bind] at written
      split at written
      · cases written
      · split at written
        · cases written
        · cases written
          exact Database.find?_upsert table entry owner

theorem find?_of_delete {id : Value} {removed : Bool}
    (deleted : store.delete entityType id = .ok (removed, after)) (owner : Ref) :
    after.find? owner = none ∨ after.find? owner = store.find? owner := by
  unfold delete at deleted
  split at deleted
  · cases deleted
    exact Or.inr rfl
  · cases named : store.ownerOf entityType id with
    | error failure => simp [named, bind, Except.bind] at deleted
    | ok owner? =>
        simp only [named, bind, Except.bind, pure, Except.pure] at deleted
        split at deleted
        · cases deleted
          exact Or.inr rfl
        · rename_i ref
          split at deleted
          · cases deleted
            rw [(places_erase store ref).found]
            by_cases same : owner = ref
            · subst same
              exact Or.inl (Function.update_self ..)
            · exact Or.inr (Function.update_of_ne same ..)
          · cases deleted
            exact Or.inr rfl

theorem find?_of_ensureStale {id : Value} {given : Entry}
    (ensured : store.ensureStale entityType id = .ok (given, after)) (owner : Ref) :
    after.find? owner = store.find? owner ∨
      ∃ entry, after.find? owner = some entry ∧ entry.content.stale = true := by
  have written {entry : Entry} (stale : entry.content.stale = true)
      (upserted : store.upsert entry = .ok after) :
      after.find? owner = store.find? owner ∨
        ∃ entry, after.find? owner = some entry ∧ entry.content.stale = true := by
    rw [find?_of_upsert upserted]
    split
    · exact Or.inr ⟨entry, rfl, stale⟩
    · exact Or.inl rfl
  unfold ensureStale at ensured
  cases looked : store.get entityType id with
  | error failure => simp [looked, bind, Except.bind] at ensured
  | ok held? =>
      simp only [looked, bind, Except.bind, pure, Except.pure] at ensured
      split at ensured
      · rename_i held
        split at ensured
        · cases ensured
          exact Or.inl rfl
        · split at ensured
          · cases ensured
          · rename_i upserted
            cases ensured
            exact written rfl upserted
      · split at ensured
        · cases ensured
        · rename_i entry placed
          split at ensured
          · cases ensured
          · rename_i upserted
            cases ensured
            refine written ?_ upserted
            unfold Entry.placeholder at placed
            cases owned : Entry.checkOwner (.str entityType) id with
            | error issues => simp [owned, Except.map] at placed
            | ok named =>
                rw [owned] at placed
                cases placed
                rfl

end Store

namespace Index

variable {catalog : Catalog} {source : Source} {index : Index} {entityType : String}

/-! ## Failures of rebuilds -/

/-- A result that is not the failure of a rebuild. -/
def Unfailed {α : Type} (result : Except Failure α) : Prop :=
  ∀ failure, result = .error failure → isRebuildFailure failure = false

theorem failed_or_unfailed {α : Type} (result : Except Failure α) :
    (∃ failure, result = .error failure ∧ isRebuildFailure failure = true) ∨ Unfailed result := by
  by_cases handled : ∃ failure, result = .error failure ∧ isRebuildFailure failure = true
  · exact Or.inl handled
  · exact Or.inr fun failure failed => by
      simpa using fun isFailure => handled ⟨failure, failed, isFailure⟩

/-! ## What a store can refuse -/

theorem unfailed_of_key {id : Value} {failure : Failure} (refused : id.key = .error failure) :
    isRebuildFailure failure = false := by
  unfold Value.key at refused
  split at refused
  · cases refused
  · cases refused
  · cases refused
  · split at refused <;> cases refused
  · split at refused
    · cases refused
      rfl
    · cases refused

theorem unfailed_of_ownerOf {store : Store} {id : Value} {failure : Failure}
    (refused : store.ownerOf entityType id = .error failure) : isRebuildFailure failure = false := by
  cases store with
  | memory kept =>
      simp only [Store.ownerOf, MemoryStore.ownerOf] at refused
      cases isKey : id.key with
      | error other =>
          rw [isKey] at refused
          cases refused
          exact unfailed_of_key isKey
      | ok key =>
          rw [isKey] at refused
          cases refused
  | database table =>
      simp only [Store.ownerOf, Database.ownerOf, Database.requireTable, bind, Except.bind]
        at refused
      by_cases opened : table.opened = true
      · simp only [opened, if_true] at refused
        cases bound : table.bindValue id with
        | ok named => simp [bound, pure, Except.pure] at refused
        | error other =>
            rw [bound] at refused
            cases refused
            unfold Database.bindValue at bound
            split at bound
            · split at bound <;> cases bound
              rfl
            all_goals cases bound
            rfl
      · simp only [opened, Bool.false_eq_true, if_false] at refused
        cases refused
        rfl

theorem unfailed_of_delete {store : Store} {id : Value} {failure : Failure}
    (refused : store.delete entityType id = .error failure) : isRebuildFailure failure = false := by
  unfold Store.delete at refused
  split at refused
  · cases refused
  · cases named : store.ownerOf entityType id with
    | error other =>
        simp only [named, bind, Except.bind] at refused
        cases refused
        exact unfailed_of_ownerOf named
    | ok owner? =>
        simp only [named, bind, Except.bind, pure, Except.pure] at refused
        split at refused
        · cases refused
        · split at refused <;> cases refused

theorem unfailed_of_upsert {store : Store} {entry : Entry} {failure : Failure}
    (refused : store.upsert entry = .error failure) : isRebuildFailure failure = false := by
  cases store with
  | memory kept => cases refused
  | database table =>
      simp only [Store.upsert, Database.requireTable, Database.bindId, bind, Except.bind, pure,
        Except.pure] at refused
      split at refused
      · rename_i closed
        split at closed <;> cases closed
        cases refused
        rfl
      · split at refused
        · rename_i large
          split at large
          · split at large <;> cases large
            cases refused
            rfl
          · cases large
        · cases refused

/-! ## Attempts -/

/-- How a rebuild ends, and what it leaves. A failure that is not one of the record, such as one that
ends the program or one of the store, leaves all entries as they were. -/
inductive Attempt (entityType : String) (id : Value) (index : Index) :
    Except Failure (Option Entry) → Index → Prop where
  | failed (stage : RebuildStage) (cause : Failure) (streams : Streams) :
      Attempt entityType id index (.error (.reindex entityType id stage cause))
        { index with streams := streams }
  | stopped {failure : Failure} (unhandled : isRebuildFailure failure = false)
      (streams : Streams) :
      Attempt entityType id index (.error failure) { index with streams := streams }
  | removed {removed : Bool} {store : Store}
      (deleted : index.store.delete entityType id = .ok (removed, store)) (streams : Streams) :
      Attempt entityType id index (.ok none)
        ({ index with store := store, streams := streams }.record
          (.note (.vanishedRemoved entityType id)))
  | built {entry : Entry} {store : Store} (isType : entry.owner.entityType = entityType)
      (fresh : entry.content.stale = false) (written : index.store.upsert entry = .ok store)
      (streams : Streams) :
      Attempt entityType id index (.ok (some entry))
        ({ index with store := store, streams := streams }.record
          (.count .reindexed [("entity_type", entityType)] 1))

/-- An entry that a build gives is of the type asked for, and up to date. -/
theorem of_liveEntry {id : Value} {streams : Streams} {entry : Entry}
    (built : (catalog.liveEntry source entityType id streams).1 = .ok (some entry)) :
    entry.owner.entityType = entityType ∧ entry.content.stale = false := by
  rcases Catalog.liveEntry_inv (Prod.ext built rfl) with ⟨cause, -, fails⟩ | ⟨-, gone⟩ |
    ⟨snapshot, between, found, ⟨cause, -, fails⟩ | ⟨texts, -, gives⟩⟩
  · cases fails
  · cases gone
  · cases fails
  · cases gives
    exact ⟨(Host.checkedRef_inv (LookUps.checkedRef_of_snapshot found)).1, rfl⟩

theorem attempt_of_rebuildFailure (id : Value) (stage : RebuildStage) (cause : Failure)
    (streams : Streams) :
    Attempt entityType id index (.error (Catalog.rebuildFailure entityType id stage cause))
      { index with streams := streams } := by
  by_cases ending : cause.isEnding = true
  · have same : Catalog.rebuildFailure entityType id stage cause = cause := if_pos ending
    rw [same]
    refine .stopped ?_ _
    by_contra handled
    rw [not_isEnding_of_isRebuildFailure (by simpa using handled)] at ending
    cases ending
  · have same : Catalog.rebuildFailure entityType id stage cause =
        .reindex entityType id stage cause := if_neg ending
    rw [same]
    exact .failed _ _ _

theorem attempt_of_error {id : Value} {before after : Streams} {failure : Failure}
    (failed : catalog.liveEntry source entityType id before = (.error failure, after)) :
    Attempt entityType id index (.error failure) { index with streams := after } := by
  rcases Catalog.liveEntry_inv failed with ⟨cause, -, fails⟩ | ⟨-, gone⟩ |
    ⟨snapshot, between, -, ⟨cause, -, fails⟩ | ⟨texts, -, gives⟩⟩
  · cases fails
    exact attempt_of_rebuildFailure _ _ _ _
  · cases gone
  · cases fails
    exact attempt_of_rebuildFailure _ _ _ _
  · cases gives

/-- A rebuild is an attempt. -/
theorem attempt_rebuild (catalog : Catalog) (source : Source) (entityType : String) (id : Value)
    (index : Index) :
    Attempt entityType id index (rebuild catalog source entityType id index).1
      (rebuild catalog source entityType id index).2 := by
  rw [rebuild, Action.bind_apply, reading]
  cases live : catalog.liveEntry source entityType id index.streams with
  | mk outcome streams =>
      cases outcome with
      | error failure => exact attempt_of_error live
      | ok built? =>
          cases built? with
          | none =>
              dsimp only
              rw [Action.bind_apply, delete, write]
              cases deleted : index.store.delete entityType id with
              | error failure =>
                  dsimp only
                  exact .stopped (unfailed_of_delete deleted) streams
              | ok result =>
                  dsimp only
                  exact .removed deleted streams
          | some entry =>
              obtain ⟨isType, fresh⟩ := of_liveEntry (congrArg Prod.fst live)
              dsimp only
              rw [Action.bind_apply, upsert, write]
              cases written : index.store.upsert entry with
              | error failure =>
                  simp only [Except.map]
                  exact .stopped (unfailed_of_upsert written) streams
              | ok store =>
                  simp only [Except.map]
                  exact .built isType fresh written streams

namespace Attempt

variable {id : Value} {result : Except Failure (Option Entry)} {after : Index}
variable (attempt : Attempt entityType id index result after)
include attempt

theorem trail_of_error {failure : Failure} (failed : result = .error failure) :
    after.trail = index.trail := by
  cases attempt with
  | failed | stopped => rfl
  | removed | built => cases failed

/-- A failure of a rebuild names the record that was rebuilt. -/
theorem reindex_of_error {failure : Failure} (failed : result = .error failure)
    (handled : isRebuildFailure failure = true) :
    ∃ stage cause, failure = .reindex entityType id stage cause := by
  cases attempt with
  | failed stage cause streams =>
      cases failed
      exact ⟨stage, cause, rfl⟩
  | stopped unhandled streams =>
      cases failed
      rw [unhandled] at handled
      cases handled
  | removed | built => cases failed

/-- A rebuild that builds an entry writes it. -/
theorem written {entry : Entry} (built : result = .ok (some entry)) :
    after.store.find? entry.owner = some entry ∧ entry.owner.entityType = entityType ∧
      entry.content.stale = false := by
  cases attempt with
  | failed | stopped | removed => cases built
  | @built given store isType fresh written streams =>
      cases built
      refine ⟨?_, isType, fresh⟩
      show store.find? entry.owner = some entry
      rw [Store.find?_of_upsert written, if_pos rfl]

/-- An entry that is found after a rebuild was there before it, or is the one that it built. -/
theorem found {owner : Ref} {entry : Entry} (present : after.store.find? owner = some entry) :
    index.store.find? owner = some entry ∨ result = .ok (some entry) := by
  cases attempt with
  | failed | stopped => exact Or.inl present
  | removed deleted streams =>
      rcases Store.find?_of_delete deleted owner with gone | same
      · exact absurd (gone.symm.trans present) (by simp)
      · exact Or.inl (same.symm.trans present)
  | @built given store isType fresh written streams =>
      replace present : store.find? owner = some entry := present
      rw [Store.find?_of_upsert written] at present
      split at present
      · cases present
        exact Or.inr rfl
      · exact Or.inl present

end Attempt

end Index

end ShadowIndex
