import ShadowIndex.Index.Change
import ShadowIndex.Index.Search
import ShadowIndex.Proofs.Index.Holds
import ShadowIndex.Proofs.Run

/-!
Contract: work on the index ends every hold that it begins.

Owns:
- `Index.Nests`, work with which a well-nested run of the locks goes on to one that has the same
  open holds, and the parts from which such work is composed;
- `Index.Work`, what is done with the index: changes are told, types are flagged, searched,
  reindexed and rebuilt; all of it nests (`Index.Work.nests`);
- `Index.unheld_afterAll`: after any of it, over whatever host and whatever fails, no lock is held.

Does not own: which records have a lock.
-/

set_option autoImplicit false

namespace ShadowIndex.Index

variable {α β : Type}

/-- Work with which a well-nested run of the locks goes on, to the same open holds. -/
def Nests (work : Action Index α) : Prop :=
  ∀ ⦃uses holds index⦄, KeyedLocks.Run uses holds index.locks →
    ∃ more, KeyedLocks.Run (uses ++ more) holds (work index).2.locks

/-! ## Parts -/

theorem nests_of_locks {work : Action Index α}
    (same : ∀ index, (work index).2.locks = index.locks) : Nests work := by
  intro uses holds index run
  exact ⟨[], by rwa [List.append_nil, same]⟩

theorem nests_pure (value : α) : Nests (pure value) := nests_of_locks fun _ => rfl

theorem nests_lift (outcome : Except Failure α) : Nests (Action.lift outcome) :=
  nests_of_locks fun _ => rfl

theorem nests_fail (failure : Failure) : Nests (Action.fail failure : Action Index α) :=
  nests_of_locks fun _ => rfl

theorem nests_emit (event : Event) : Nests (emit event) := nests_of_locks fun _ => rfl

theorem nests_note (written : Note) : Nests (note written) := nests_emit _

theorem nests_reading (action : Action Streams α) : Nests (reading action) :=
  nests_of_locks fun _ => rfl

theorem nests_query (look : Store → Except Failure α) : Nests (query look) :=
  nests_of_locks fun _ => rfl

theorem nests_write (update : Store → Except Failure (α × Store)) : Nests (write update) :=
  nests_of_locks (locks_write update)

/-- A sequence goes on from where its first part stops, unless that fails. -/
theorem Nests.bind {action : Action Index α} {next : α → Action Index β} (first : Nests action)
    (rest : ∀ value, Nests (next value)) : Nests (action >>= next) := by
  intro uses holds index run
  obtain ⟨more, middle⟩ := first run
  rw [Action.bind_apply]
  rcases ran : action index with ⟨failure | value, after⟩
  · exact ⟨more, by rwa [ran] at middle⟩
  · rw [ran] at middle
    obtain ⟨others, last⟩ := rest value middle
    exact ⟨more ++ others, by rwa [← List.append_assoc]⟩

theorem nests_each {action : α → Action Index β} (nests : ∀ item, Nests (action item))
    (items : List α) : Nests (Action.each action items) := by
  induction items with
  | nil => exact nests_pure []
  | cons item rest inductionHypothesis =>
      exact (nests item).bind fun value => inductionHypothesis.bind fun values =>
        nests_pure (value :: values)

theorem Nests.attempt {action : Action Index α} (nests : Nests action) : Nests action.attempt :=
  nests

theorem Nests.ensuring {work : Action Index α} (nests : Nests work)
    {finish : Except Failure α → Index → Index}
    (same : ∀ outcome index, (finish outcome index).locks = index.locks) :
    Nests (work.ensuring finish) := by
  intro uses holds index run
  obtain ⟨more, after⟩ := nests run
  exact ⟨more, by rwa [← same (work index).1] at after⟩

theorem Nests.bound {work : Action Index α} (nests : Nests work) (fields : List (String × Value)) :
    Nests (bound fields work) :=
  (nests_emit _).bind fun _ => nests.ensuring fun _ _ => rfl

theorem Nests.span {work : Action Index α} (nests : Nests work) (name : String)
    (attributes : List (String × Value)) : Nests (span name attributes work) :=
  (nests_emit _).bind fun _ => nests.ensuring fun outcome _ => by cases outcome <;> rfl

theorem Nests.timed {work : Action Index α} (nests : Nests work)
    (labels : List (String × String)) : Nests (timed labels work) :=
  nests.ensuring fun _ _ => rfl

/-- Work under a lock ends its hold, whether it returns or fails. -/
theorem Nests.holding {work : Action Index α} (nests : Nests work) (entityType : String)
    (id : Value) : Nests (holding entityType id work) := by
  intro uses holds index run
  cases isKey : id.key with
  | error failure =>
      refine ⟨[], ?_⟩
      rw [List.append_nil, Index.holding, Action.bind_apply, isKey]
      exact run
  | ok key =>
      let entered : Index := { index with locks := index.locks.enter (entityType, key) }
      have begun : KeyedLocks.Run (uses ++ [.enter (entityType, key)])
          (((entityType, key), (index.locks.acquire (entityType, key)).1) :: holds)
          entered.locks := run.enter (entityType, key)
      obtain ⟨more, inside⟩ := nests begun
      refine ⟨[.enter (entityType, key)] ++ more ++
        [.leave (entityType, key) ((work entered).1.map fun _ => ())], ?_⟩
      have ended := inside.leave ((work entered).1.map fun _ => ())
      rw [List.append_assoc uses] at ended
      rw [← List.append_assoc, Index.holding, Action.bind_apply, isKey]
      exact ended

theorem nests_discardLock (entityType : String) (id : Value) :
    Nests (discardLock entityType id) := by
  intro uses holds index run
  cases isKey : id.key with
  | error failure =>
      refine ⟨[], ?_⟩
      rw [List.append_nil, discardLock, Action.bind_apply, isKey]
      exact run
  | ok key =>
      refine ⟨[.discard (entityType, key) (index.locks.tryDiscard (entityType, key)).1], ?_⟩
      rw [discardLock, Action.bind_apply, isKey]
      exact run.discard (entityType, key)

/-! ## Work -/

variable (catalog : Catalog) (source : Source) (entityType : String)

theorem nests_rebuild (id : Value) : Nests (rebuild catalog source entityType id) := by
  refine (nests_reading _).bind fun built? => ?_
  cases built? with
  | none =>
      exact (nests_write _).bind fun _ => (nests_note _).bind fun _ => nests_pure none
  | some entry =>
      exact (nests_write _).bind fun _ => (nests_emit _).bind fun _ => nests_pure (some entry)

theorem nests_reindexOne (id : Value) : Nests (reindexOne catalog source entityType id) := by
  refine ((nests_rebuild catalog source entityType id).holding entityType id).bind fun entry => ?_
  split
  · exact (nests_discardLock entityType id).bind fun _ => nests_pure entry
  · exact nests_pure entry

/-- What comes of a rebuild that failed: it is noted, or it ends the work around it. -/
theorem nests_failed {work : Action Index α} (nests : Nests work) (failure : Failure) :
    Nests (if isRebuildFailure failure then work else Action.fail failure) := by
  split
  · exact nests
  · exact nests_fail failure

theorem nests_refreshHeld (id : Id) : Nests (refreshHeld catalog source entityType id) := by
  refine (nests_query _).bind fun stored => ?_
  cases stored with
  | none => exact nests_pure _
  | some current =>
      dsimp only
      split
      · exact nests_pure _
      · refine (nests_rebuild catalog source entityType id.value).attempt.bind fun result => ?_
        rcases result with failure | none | entry
        · exact nests_failed
            ((nests_note _).bind fun _ => (nests_emit _).bind fun _ => nests_pure _) failure
        · exact nests_pure _
        · exact nests_pure _

theorem nests_refresh (id : Id) : Nests (refresh catalog source entityType id) := by
  refine ((nests_refreshHeld catalog source entityType id).holding entityType id.value).bind
    fun outcome => ?_
  split
  · exact (nests_discardLock entityType id.value).bind fun _ => nests_pure _
  · exact nests_pure _

theorem nests_reindexAll : Nests (reindexAll catalog source entityType) := by
  have batch : Nests (refreshAll catalog source entityType) :=
    (nests_query _).bind fun stale =>
      (nests_each (nests_refresh catalog source entityType) _).bind fun members =>
        (nests_emit _).bind fun _ => (nests_emit _).bind fun _ => nests_pure _
  refine ((batch.span _ _).bound _).bind fun report => ?_
  dsimp only
  split
  · exact (nests_note _).bind fun _ => nests_pure report
  · exact nests_pure report

theorem nests_invalidate (cause : String) (id : Value) :
    Nests (invalidate catalog source cause entityType id) := by
  unfold invalidate
  split
  · exact nests_pure ()
  · refine ((nests_write _).holding entityType id).bind fun _ => (nests_emit _).bind fun _ => ?_
    split
    · exact nests_pure ()
    · refine (nests_reindexOne catalog source entityType id).attempt.bind fun result => ?_
      cases result with
      | ok _ => exact nests_pure ()
      | error failure => exact nests_failed (nests_note _) failure

theorem nests_cascade (id : Value) : Nests (cascade catalog source entityType id) := by
  refine (nests_each (fun edge => ?_) _).bind fun _ => nests_pure ()
  unfold cascadeAlong
  split
  · exact nests_note _
  · refine (nests_reading _).attempt.bind fun resolved => ?_
    cases resolved with
    | error cause => exact nests_fail _
    | ok dependents =>
        refine (nests_each (fun dependent =>
          nests_invalidate catalog source edge.dependent "dependency" _) _).bind fun _ => ?_
        split
        · exact nests_note _
        · exact nests_pure ()

theorem nests_forget (id : Value) : Nests (forget entityType id) := by
  have work : Nests (do if ← delete entityType id then note (.entryDeleted entityType id)) :=
    (nests_write _).bind fun deleted => by
      split
      · exact nests_note _
      · exact nests_pure ()
  exact (work.holding entityType id).bind fun _ => nests_discardLock entityType id

theorem nests_onChange (change : Change) : Nests (onChange catalog source change) := by
  have follows := nests_cascade catalog source change.entityType change.id
  refine Nests.bound ?_ _
  dsimp only
  split
  · exact (nests_forget ..).bind fun _ => follows
  · exact (nests_invalidate ..).bind fun _ => follows

theorem nests_markType : Nests (markType entityType) := by
  refine (nests_query _).bind fun owners =>
    (nests_each (fun id => (nests_write _).holding entityType id.value) owners).bind fun marks => ?_
  dsimp only
  split
  · exact (nests_emit _).bind fun _ => nests_note _
  · exact nests_pure ()

theorem nests_parse (text : Option String) : Nests (parse text) := by
  refine (nests_each (fun token => ?_) _).bind fun _ => (nests_note _).bind fun _ => nests_pure _
  split
  · exact nests_note _
  · exact nests_pure ()

theorem nests_freshEntry (id : Value) : Nests (freshEntry catalog source entityType id) := by
  refine (nests_query _).bind fun stored => ?_
  split
  · exact nests_pure _
  · split
    · exact nests_pure none
    · refine (nests_reindexOne catalog source entityType id).attempt.bind fun result => ?_
      cases result with
      | ok entry => exact nests_pure entry
      | error failure =>
          exact nests_failed ((nests_note _).bind fun _ => nests_pure none) failure

theorem nests_examine (query : Query) (candidates : List Value) :
    Nests (examine catalog source entityType query candidates) := by
  have looked : Nests (do
      let hits ← Action.each (hit catalog source entityType query) candidates
      emit (.setAttribute "record_search.results" (.int (hits.filterMap id).length))
      return (⟨hits.filterMap id, some candidates.length⟩ : Found)) :=
    (nests_each (fun id => (nests_freshEntry catalog source entityType id).bind fun _ =>
      nests_pure _) candidates).bind fun hits => (nests_emit _).bind fun _ => nests_pure _
  unfold examine
  dsimp only
  split
  · exact (nests_note _).bind fun _ => nests_pure _
  · split
    · exact (nests_note _).bind fun _ => nests_pure _
    · split
      · exact (nests_reindexAll catalog source entityType).bind fun _ => looked
      · exact looked

theorem nests_search (text : Option String) (scope : Scope) :
    Nests (search catalog source entityType text scope) := by
  have finds (query : Query) : Nests (find catalog source entityType query scope) := by
    refine (nests_reading _).bind fun candidates => ?_
    split
    · exact nests_pure _
    · exact nests_examine catalog source entityType query candidates
  refine (nests_parse text).bind fun query => (nests_emit _).bind fun _ =>
    ((((finds query).span _ _).timed _).bound _).bind fun found => ?_
  dsimp only
  split
  · exact (nests_note _).bind fun _ => nests_pure found.ids
  · exact nests_pure found.ids

theorem nests_rebuildAll : Nests (rebuildAll catalog source entityType) := by
  have drops (id : Id) : Nests (dropOrphan entityType id) :=
    ((nests_write _).holding entityType id.value).bind fun _ => nests_discardLock _ _
  have flags (id : Value) : Nests (holding entityType id (ensureStale entityType id)) :=
    (nests_write _).holding entityType id
  exact (nests_reading _).bind fun candidates => (nests_lift _).bind fun known =>
    (nests_query _).bind fun owners => (nests_each drops _).bind fun _ =>
      (nests_each flags candidates).bind fun _ =>
        (nests_reindexAll catalog source entityType).bind fun report => nests_pure _

/-! ## Runs -/

/-- What is done with the index. -/
inductive Work where
  | change (change : Change)
  | mark (entityType : String)
  | search (entityType : String) (text : Option String) (scope : Scope)
  | reindex (entityType : String)
  | rebuild (entityType : String)

/-- The index after some work, whatever became of it. -/
def Work.after (work : Work) (catalog : Catalog) (source : Source) (index : Index) : Index :=
  match work with
  | change told => (onChange catalog source told index).2
  | mark entityType => (markType entityType index).2
  | search entityType text scope => (Index.search catalog source entityType text scope index).2
  | reindex entityType => (reindexAll catalog source entityType index).2
  | rebuild entityType => (rebuildAll catalog source entityType index).2

variable {catalog source}

theorem Work.nests (work : Work) {uses : List (KeyedLocks.Use LockKey)}
    {holds : List (LockKey × Lock)} {index : Index}
    (run : KeyedLocks.Run uses holds index.locks) :
    ∃ more, KeyedLocks.Run (uses ++ more) holds (work.after catalog source index).locks := by
  cases work with
  | change told => exact nests_onChange catalog source told run
  | mark entityType => exact nests_markType entityType run
  | search entityType text scope => exact nests_search catalog source entityType text scope run
  | reindex entityType => exact nests_reindexAll catalog source entityType run
  | rebuild entityType => exact nests_rebuildAll catalog source entityType run

/-- After any work on an index with new locks, each with the fields and the host of its time, no
lock is held, and the keys with a lock are those that were held since it was last dropped. -/
theorem unheld_afterAll {index : Index} (unused : index.locks = .empty)
    (works : List (Work × Catalog × Source)) :
    let after := Run.afterAll (fun work => work.1.after work.2.1 work.2.2) index works
    ∃ uses, KeyedLocks.Run uses [] after.locks ∧ ∀ key, after.locks.holdersOf key = 0 ∧
      (after.locks.contains key = true ↔ KeyedLocks.HeldSince uses key) := by
  intro after
  have keeps : Run.Keeps (fun work : Work × Catalog × Source => work.1.after work.2.1 work.2.2)
      (fun _ _ => True) fun index => ∃ uses, KeyedLocks.Run uses [] index.locks := by
    rintro index work ⟨uses, run⟩ -
    obtain ⟨more, later⟩ := work.1.nests run
    exact ⟨uses ++ more, later⟩
  have start : ∃ uses, KeyedLocks.Run uses [] index.locks := by
    rw [unused]
    exact ⟨[], .start⟩
  obtain ⟨uses, run⟩ := keeps.afterAll start (Run.along_of_forall fun _ _ => trivial)
  exact ⟨uses, run, fun key => ⟨run.tracks.holdersOf_eq key, run.tracks.kept key⟩⟩

end ShadowIndex.Index
