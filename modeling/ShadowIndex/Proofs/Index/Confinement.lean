import ShadowIndex.Proofs.Host.Keyed
import ShadowIndex.Proofs.Host.Reflection
import ShadowIndex.Proofs.Index.Search

/-!
Contract: entries and locks belong to live records only.

Owns:
- `Index.IsConfined`, an index with entries and locks of live owners only;
- `Index.Keeps`, work that keeps an index confined and gives back every lock that it takes, also
  when it fails; what searches, batches and notifications are composed of is such work;
- `Index.onChange_destroy_inv`: a notification of a destroyed record drops its entry and its lock.

Does not own: which records are live.
-/

set_option autoImplicit false

namespace ShadowIndex.Index

variable {α β : Type} {ids : Id → Prop} {live : Ref → Prop}

/-- The key under which the lock of an owner is kept. -/
def lockKey (owner : Ref) : LockKey := (owner.entityType, owner.id.key)

theorem lockKey_injective {left right : Ref} (same : lockKey left = lockKey right) :
    left = right := by
  obtain ⟨leftType, leftId⟩ := left
  obtain ⟨rightType, rightId⟩ := right
  obtain ⟨sameType, sameKey⟩ := Prod.mk.inj same
  cases sameType
  cases Id.key_injective sameKey
  rfl

/-- An index whose store serves certain ids, with entries and locks of live owners only. -/
structure IsConfined (ids : Id → Prop) (live : Ref → Prop) (index : Index) : Prop where
  serves : index.store.Serves ids
  stored : ∀ owner, (index.store.find? owner).isSome → live owner
  locked : ∀ key, index.locks.contains key = true → ∃ owner, live owner ∧ key = lockKey owner

theorem IsConfined.mono {other : Ref → Prop} {index : Index} (confined : index.IsConfined ids live)
    (weaker : ∀ owner, live owner → other owner) : index.IsConfined ids other where
  serves := confined.serves
  stored := fun owner present => weaker owner (confined.stored owner present)
  locked := by
    intro key held
    obtain ⟨owner, isLive, isKey⟩ := confined.locked key held
    exact ⟨owner, weaker owner isLive, isKey⟩

theorem IsConfined.record {index : Index} (confined : index.IsConfined ids live) (event : Event) :
    (index.record event).IsConfined ids live :=
  ⟨confined.serves, confined.stored, confined.locked⟩

/-- Work that keeps an index confined and leaves each lock as many holders as it had. -/
def Keeps (ids : Id → Prop) (live : Ref → Prop) (action : Action Index α) : Prop :=
  ∀ index, index.IsConfined ids live → (action index).2.IsConfined ids live ∧
    ∀ key, (action index).2.locks.holdersOf key = index.locks.holdersOf key

/-- Every dependency leads along its relation, where that is declared, to the type that depends. -/
def Aligned (catalog : Catalog) (host : Host) : Prop :=
  ∀ edge ∈ catalog.dependencies.edges, ∀ relation,
    host.relations.find? (edge.source, edge.relation) = some relation →
      relation.target = edge.dependent

/-! ## Composition -/

theorem keeps_of_same {action : Action Index α}
    (store : ∀ index, (action index).2.store = index.store)
    (locks : ∀ index, (action index).2.locks = index.locks) : Keeps ids live action := by
  intro index confined
  refine ⟨⟨?_, ?_, ?_⟩, fun key => by rw [locks]⟩
  · rw [store]
    exact confined.serves
  · rw [store]
    exact confined.stored
  · rw [locks]
    exact confined.locked

theorem keeps_of_quiet {action : Action Index α} (quiet : IsQuiet action) :
    Keeps ids live action := by
  refine keeps_of_same (fun index => ?_) (fun index => ?_)
  · obtain ⟨trail, same⟩ := quiet index
    rw [same]
  · obtain ⟨trail, same⟩ := quiet index
    rw [same]

theorem keeps_pure (value : α) : Keeps ids live (pure value) := keeps_of_quiet (isQuiet_pure value)

theorem keeps_emit (event : Event) : Keeps ids live (emit event) :=
  keeps_of_quiet (isQuiet_emit event)

theorem keeps_note (note : Note) : Keeps ids live (Index.note note) := keeps_emit _

theorem keeps_fail (failure : Failure) : Keeps ids live (Action.fail failure : Action Index α) :=
  keeps_of_same (fun _ => rfl) fun _ => rfl

theorem keeps_lift (outcome : Except Failure α) : Keeps ids live (Action.lift outcome) :=
  keeps_of_quiet (isQuiet_lift outcome)

theorem keeps_query (look : Store → Except Failure α) : Keeps ids live (query look) :=
  keeps_of_same (fun _ => rfl) fun _ => rfl

theorem keeps_reading (action : Action Streams α) : Keeps ids live (reading action) :=
  keeps_of_same (fun _ => rfl) fun _ => rfl

/-- The second part of a sequence may rely on what the first gives on a confined index. -/
theorem Keeps.bind {action : Action Index α} {next : α → Action Index β}
    (first : Keeps ids live action)
    (rest : ∀ value, (∃ index, index.IsConfined ids live ∧ (action index).1 = .ok value) →
      Keeps ids live (next value)) :
    Keeps ids live (action >>= next) := by
  intro index confined
  obtain ⟨middle, holders⟩ := first index confined
  rw [Action.bind_apply]
  cases ran : action index with
  | mk outcome after =>
      rw [ran] at middle holders
      cases outcome with
      | error failure => exact ⟨middle, holders⟩
      | ok value =>
          obtain ⟨last, lastHolders⟩ := rest value ⟨index, confined, by rw [ran]⟩ after middle
          exact ⟨last, fun key => (lastHolders key).trans (holders key)⟩

theorem keeps_each {action : α → Action Index β} {items : List α}
    (step : ∀ item ∈ items, Keeps ids live (action item)) :
    Keeps ids live (Action.each action items) := by
  induction items with
  | nil => exact keeps_pure []
  | cons item rest inductionHypothesis =>
      have others := inductionHypothesis fun other member => step other (List.mem_cons_of_mem item member)
      refine (step item List.mem_cons_self).bind fun value _ => ?_
      exact others.bind fun values _ => keeps_pure (value :: values)

theorem Keeps.attempt {action : Action Index α} (keeps : Keeps ids live action) :
    Keeps ids live action.attempt :=
  fun index confined => keeps index confined

theorem Keeps.ensuring {action : Action Index α} {finish : Except Failure α → Index → Index}
    (keeps : Keeps ids live action)
    (finishes : ∀ outcome index, ∃ trail, finish outcome index = { index with trail := trail }) :
    Keeps ids live (action.ensuring finish) := by
  intro index confined
  obtain ⟨last, finished⟩ := finishes (action index).1 (action index).2
  obtain ⟨after, holders⟩ := keeps index confined
  rw [show (action.ensuring finish index).2 = _ from finished]
  exact ⟨⟨after.serves, after.stored, after.locked⟩, holders⟩

theorem bound_apply (fields : List (String × Value)) (work : Action Index α) (index : Index) :
    bound fields work index =
      let (outcome, after) := work (index.record (.bind fields))
      (outcome, after.record .unbind) := rfl

theorem Keeps.bound {work : Action Index α} (keeps : Keeps ids live work)
    (fields : List (String × Value)) : Keeps ids live (bound fields work) :=
  (keeps_emit _).bind fun _ _ => keeps.ensuring fun _ _ => ⟨_, rfl⟩

theorem Keeps.span {work : Action Index α} (keeps : Keeps ids live work) (name : String)
    (attributes : List (String × Value)) : Keeps ids live (span name attributes work) :=
  (keeps_emit _).bind fun _ _ => keeps.ensuring fun outcome _ => by
    cases outcome with
    | ok value => exact ⟨_, rfl⟩
    | error failure => exact ⟨_, rfl⟩

theorem Keeps.timed {work : Action Index α} (keeps : Keeps ids live work)
    (labels : List (String × String)) : Keeps ids live (timed labels work) :=
  keeps.ensuring fun _ _ => ⟨_, rfl⟩

/-! ## Locks -/

section Locks

variable (entityType : String) (id : Id)

theorem holding_apply (work : Action Index α) (index : Index) :
    let entered := { index with locks := index.locks.enter (lockKey ⟨entityType, id⟩) }
    holding entityType id.value work index =
      ((work entered).1, { (work entered).2 with
        locks := (work entered).2.locks.leave (lockKey ⟨entityType, id⟩) }) := by
  cases id <;> rfl

theorem discardLock_apply (index : Index) :
    discardLock entityType id.value index =
      (.ok (), { index with locks := index.locks.discard (lockKey ⟨entityType, id⟩) }) := by
  cases id <;> rfl

theorem IsConfined.enter {index : Index} (confined : index.IsConfined ids live) {owner : Ref}
    (isLive : live owner) :
    ({ index with locks := index.locks.enter (lockKey owner) } : Index).IsConfined ids live where
  serves := confined.serves
  stored := confined.stored
  locked := by
    intro key entered
    rcases (KeyedLocks.contains_enter_iff _ _ _).1 entered with rfl | held
    · exact ⟨owner, isLive, rfl⟩
    · exact confined.locked key held

/-- Work under the lock of a live owner gives the lock back. -/
theorem Keeps.holding {work : Action Index α} (keeps : Keeps ids live work)
    (isLive : live ⟨entityType, id⟩) : Keeps ids live (holding entityType id.value work) := by
  intro index confined
  obtain ⟨after, holders⟩ := keeps _ (confined.enter isLive)
  rw [holding_apply]
  refine ⟨⟨after.serves, after.stored, fun key held => ?_⟩, fun key => ?_⟩
  · rw [KeyedLocks.contains_leave] at held
    exact after.locked key held
  · simp only [KeyedLocks.holdersOf_leave, holders, KeyedLocks.holdersOf_enter, if_true]
    split
    · rename_i same
      rw [same, Nat.add_sub_cancel]
    · rfl

theorem keeps_discardLock : Keeps ids live (discardLock entityType id.value) := by
  intro index confined
  rw [discardLock_apply]
  refine ⟨⟨confined.serves, confined.stored, fun key held => ?_⟩, fun key => ?_⟩
  · exact confined.locked key (KeyedLocks.contains_of_discard held)
  · exact KeyedLocks.holdersOf_discard _ _ _

end Locks

/-! ## Writes -/

/-- A write for one owner keeps an index confined if it leaves a dead owner nothing. -/
theorem keeps_of_placing {update : Store → Except Failure (α × Store)}
    (placing : ∀ index : Index, index.IsConfined ids live → ∃ owner held,
      index.store.Places owner held (write update index).2.store ∧ (held.isSome → live owner)) :
    Keeps ids live (write update) := by
  intro index confined
  obtain ⟨owner, held, placed, isLive⟩ := placing index confined
  refine ⟨⟨confined.serves.of_kind placed.kind, fun other present => ?_, ?_⟩, fun key => ?_⟩
  · rw [placed.found] at present
    by_cases same : other = owner
    · subst same
      rw [Function.update_self] at present
      exact isLive present
    · rw [Function.update_of_ne same] at present
      exact confined.stored other present
  · rw [locks_write]
    exact confined.locked
  · rw [locks_write]

section Owners

variable {entityType : String} {id : Id} (known : ids id)
include known

theorem keeps_delete : Keeps ids live (delete entityType id.value) :=
  keeps_of_placing fun index confined =>
    ⟨_, _, (delete_inv confined.serves.opened (confined.serves.accepts id known)
      (runs_self _ index)).2, by simp⟩

theorem keeps_markStale : Keeps ids live (markStale entityType id.value) :=
  keeps_of_placing fun index confined =>
    ⟨_, _, (markStale_inv confined.serves.opened (confined.serves.accepts id known)
      (runs_self _ index)).2, fun present => confined.stored _ (by simpa using present)⟩

theorem keeps_ensureStale (isLive : live ⟨entityType, id⟩) :
    Keeps ids live (ensureStale entityType id.value) :=
  keeps_of_placing fun index confined => by
    rcases ensureStale_cases confined.serves.opened (confined.serves.accepts id known)
      (runs_self (ensureStale entityType id.value) index) with ⟨-, placed⟩ | ⟨-, same⟩
    · exact ⟨_, _, placed, fun _ => isLive⟩
    · exact ⟨⟨entityType, id⟩, _, by
        rw [show (write _ index).2.store = index.store from same]
        exact Store.places_of_unchanged rfl, fun _ => isLive⟩

theorem keeps_upsert {entry : Entry} (isOwner : entry.owner = ⟨entityType, id⟩)
    (isLive : live ⟨entityType, id⟩) : Keeps ids live (upsert entry) :=
  keeps_of_placing fun index confined =>
    ⟨_, _, (upsert_inv confined.serves.opened
      (confined.serves.accepts entry.owner.id (by rw [isOwner]; exact known))
      (runs_self _ index)).2, fun _ => isOwner ▸ isLive⟩

end Owners

namespace IsConfined

variable {index : Index} (confined : index.IsConfined ids live) {entityType : String} {id : Id}
include confined

theorem isLive_of_ownerIds {owners : List Id}
    (listed : index.store.ownerIds entityType = .ok owners) (member : id ∈ owners) :
    live ⟨entityType, id⟩ := by
  obtain ⟨others, listing, isOwner⟩ := Store.ownerIds_eq_ok confined.serves.opened entityType
  rw [listed] at listing
  cases listing
  exact confined.stored _ ((isOwner id).1 member)

theorem isLive_of_allStaleFor {stale : List Entry}
    (listed : index.store.allStaleFor entityType = .ok stale)
    (member : id ∈ stale.map fun entry => entry.owner.id) : live ⟨entityType, id⟩ := by
  obtain ⟨others, listing, isStale⟩ := Store.allStaleFor_eq_ok confined.serves.opened entityType
  rw [listed] at listing
  cases listing
  obtain ⟨entry, held, -⟩ := (Option.any_eq_true _ _).1 ((isStale id).1 member)
  exact confined.stored _ (by rw [held]; rfl)

end IsConfined

/-! ## Work for live owners -/

section Work

variable {catalog : Catalog} {source : Source} {host : Host} {entityType : String} {id : Id}
variable (keyed : host.IsKeyed ids)
include keyed

section Owner

variable (isLive : host.IsLive ⟨entityType, id⟩)
include isLive

theorem keeps_rebuild : Keeps ids host.IsLive (rebuild catalog source entityType id.value) := by
  have known := keyed.known_of_isLive isLive
  refine (keeps_reading _).bind fun built? given => ?_
  cases built? with
  | none => exact (keeps_delete known).bind fun _ _ => (keeps_note _).bind fun _ _ => keeps_pure none
  | some entry =>
      obtain ⟨index, -, built⟩ := given
      have builds : catalog.Builds source ⟨entityType, id⟩ entry := ⟨index.streams, built⟩
      refine (keeps_upsert known builds.owner_eq isLive).bind fun _ _ => ?_
      exact (keeps_emit _).bind fun _ _ => keeps_pure (some entry)

theorem keeps_reindexOne :
    Keeps ids host.IsLive (reindexOne catalog source entityType id.value) := by
  refine ((keeps_rebuild keyed isLive).holding entityType id isLive).bind fun entry _ => ?_
  split
  · exact (keeps_discardLock entityType id).bind fun _ _ => keeps_pure entry
  · exact keeps_pure entry

theorem keeps_refreshHeld :
    Keeps ids host.IsLive (refreshHeld catalog source entityType id) := by
  refine (keeps_query _).bind fun held? _ => ?_
  split
  · exact keeps_pure _
  · split
    · exact keeps_pure _
    · refine (keeps_rebuild keyed isLive).attempt.bind fun result _ => ?_
      split
      · exact keeps_pure _
      · exact keeps_pure _
      · split
        · exact (keeps_note _).bind fun _ _ => (keeps_emit _).bind fun _ _ => keeps_pure _
        · exact keeps_fail _

theorem keeps_refresh : Keeps ids host.IsLive (refresh catalog source entityType id) := by
  refine ((keeps_refreshHeld keyed isLive).holding entityType id isLive).bind fun outcome _ => ?_
  split
  · exact (keeps_discardLock entityType id).bind fun _ _ => keeps_pure _
  · exact keeps_pure _

theorem keeps_invalidate (cause : String) :
    Keeps ids host.IsLive (invalidate catalog source cause entityType id.value) := by
  have ensured := keeps_ensureStale (keyed.known_of_isLive isLive) isLive
  unfold invalidate
  split
  · exact keeps_pure ()
  · refine (ensured.holding entityType id isLive).bind fun _ _ => (keeps_emit _).bind fun _ _ => ?_
    split
    · exact keeps_pure ()
    · refine (keeps_reindexOne keyed isLive).attempt.bind fun result _ => ?_
      split
      · exact keeps_pure ()
      · split
        · exact keeps_note _
        · exact keeps_fail _

theorem keeps_freshEntry :
    Keeps ids host.IsLive (freshEntry catalog source entityType id.value) := by
  refine (keeps_query _).bind fun stored _ => ?_
  split
  · exact keeps_pure _
  · split
    · exact keeps_pure none
    · refine (keeps_reindexOne keyed isLive).attempt.bind fun result _ => ?_
      split
      · exact keeps_pure _
      · split
        · exact (keeps_note _).bind fun _ _ => keeps_pure none
        · exact keeps_fail _

theorem keeps_hit (query : Query) :
    Keeps ids host.IsLive (hit catalog source entityType query id.value) :=
  (keeps_freshEntry keyed isLive).bind fun _ _ => keeps_pure _

theorem keeps_dropOrphan : Keeps ids host.IsLive (dropOrphan entityType id) := by
  have deleted : Keeps ids host.IsLive (delete entityType id.value) :=
    keeps_delete (keyed.known_of_isLive isLive)
  exact (deleted.holding entityType id isLive).bind fun _ _ => keeps_discardLock entityType id

theorem keeps_markOne : Keeps ids host.IsLive (markOne entityType id) :=
  (keeps_markStale (keyed.known_of_isLive isLive)).holding entityType id isLive

end Owner

/-! ## Batches, searches and declarations -/

theorem keeps_refreshAll : Keeps ids host.IsLive (refreshAll catalog source entityType) := by
  refine (keeps_query _).bind fun stale listed => ?_
  obtain ⟨index, confined, listed⟩ := listed
  refine (keeps_each fun id member => ?_).bind fun members _ => ?_
  · exact keeps_refresh keyed (confined.isLive_of_allStaleFor listed member)
  · exact (keeps_emit _).bind fun _ _ => (keeps_emit _).bind fun _ _ => keeps_pure _

theorem keeps_reindexAll : Keeps ids host.IsLive (reindexAll catalog source entityType) := by
  refine (((keeps_refreshAll keyed).span _ _).bound _).bind fun report _ => ?_
  split
  · exact (keeps_note _).bind fun _ _ => keeps_pure report
  · exact keeps_pure report

theorem keeps_examine {candidates : List Value} (query : Query)
    (areLive : ∀ candidate ∈ candidates,
      ∃ id : Id, candidate = id.value ∧ ids id ∧ host.IsLive ⟨entityType, id⟩) :
    Keeps ids host.IsLive (examine catalog source entityType query candidates) := by
  have hits : Keeps ids host.IsLive
      (Action.each (hit catalog source entityType query) candidates) :=
    keeps_each fun candidate member => by
      obtain ⟨id, rfl, -, isLive⟩ := areLive candidate member
      exact keeps_hit keyed isLive query
  have finish : Keeps ids host.IsLive (do
      let hits ← Action.each (hit catalog source entityType query) candidates
      let ids := hits.filterMap id
      emit (.setAttribute "record_search.results" (.int ids.length))
      return (⟨ids, some candidates.length⟩ : Found)) :=
    hits.bind fun found _ => (keeps_emit _).bind fun _ _ => keeps_pure _
  unfold examine
  dsimp only
  split
  · exact (keeps_note _).bind fun _ _ => keeps_pure _
  · split
    · exact (keeps_note _).bind fun _ _ => keeps_pure _
    · split
      · exact (keeps_reindexAll keyed).bind fun _ _ => finish
      · exact finish

theorem keeps_markType : Keeps ids host.IsLive (markType entityType) := by
  refine (keeps_query _).bind fun owners stored => ?_
  obtain ⟨index, confined, stored⟩ := stored
  refine (keeps_each fun id member => ?_).bind fun marks _ => ?_
  · exact keeps_markOne keyed (confined.isLive_of_ownerIds stored member)
  · dsimp only
    split
    · exact (keeps_emit _).bind fun _ _ => keeps_note _
    · exact keeps_pure ()

variable (reflects : source.Reflects host)
include reflects

/-- Searches build entries of live records only, in whichever scope. -/
theorem keeps_search (text : Option String) (scope : Scope) :
    Keeps ids host.IsLive (search catalog source entityType text scope) := by
  have found (query : Query) :
      Keeps ids host.IsLive (find catalog source entityType query scope) := by
    refine (keeps_reading _).bind fun candidates listed => ?_
    obtain ⟨index, -, listed⟩ := listed
    split
    · exact keeps_pure _
    · exact keeps_examine keyed query fun candidate =>
        keyed.isLive_of_candidates (reflects.candidates listed)
  refine (keeps_of_quiet (isQuiet_parse text)).bind fun query _ => (keeps_emit _).bind fun _ _ => ?_
  refine ((((found query).span _ _).timed _).bound _).bind fun found _ => ?_
  split
  · exact (keeps_note _).bind fun _ _ => keeps_pure found.ids
  · exact keeps_pure found.ids

theorem keeps_rebuildAll : Keeps ids host.IsLive (rebuildAll catalog source entityType) := by
  refine (keeps_reading _).bind fun candidates listed => (keeps_lift _).bind fun keys _ => ?_
  refine (keeps_query _).bind fun owners stored => ?_
  obtain ⟨_, -, listed⟩ := listed
  obtain ⟨index, confined, stored⟩ := stored
  refine (keeps_each fun id member => ?_).bind fun _ _ =>
    (keeps_each fun candidate member => ?_).bind fun _ _ =>
      (keeps_reindexAll keyed).bind fun report _ => keeps_pure _
  · have isOwner := (List.mem_filter.1 member).1
    exact keeps_dropOrphan keyed (confined.isLive_of_ownerIds stored isOwner)
  · obtain ⟨id, rfl, known, isLive⟩ :=
      keyed.isLive_of_candidates (reflects.candidates listed) member
    exact (keeps_ensureStale known isLive).holding entityType id isLive

/-! ## Notifications -/

variable (aligned : Aligned catalog host)
include aligned

theorem keeps_cascadeAlong {edge : Dependency}
    (isEdge : edge ∈ catalog.dependencies.edgesFrom entityType) :
    Keeps ids host.IsLive (cascadeAlong catalog source entityType id.value edge) := by
  obtain ⟨rfl, known⟩ := (catalog.dependencies.mem_edgesFrom_iff entityType edge).1 isEdge
  have declared := (catalog.dependencies.mem_edges_iff edge).2 known
  unfold cascadeAlong
  split
  · exact keeps_note _
  · refine (keeps_reading _).attempt.bind fun resolved given => ?_
    obtain ⟨index, -, resolved⟩ := given
    split
    · exact keeps_fail _
    · rename_i dependents
      refine (keeps_each fun dependent member => ?_).bind fun _ _ => ?_
      · have reached := reflects.resolve (Except.ok.inj resolved)
        obtain ⟨isLive, relation, known, isTarget⟩ := keyed.isLive_of_resolve reached member
        rw [aligned edge declared relation known] at isTarget
        exact keeps_invalidate keyed (by rwa [← isTarget]) "dependency"
      · split
        · exact keeps_note _
        · exact keeps_pure ()

theorem keeps_cascade : Keeps ids host.IsLive (cascade catalog source entityType id.value) :=
  (keeps_each fun _ isEdge => keeps_cascadeAlong keyed reflects aligned isEdge).bind fun _ _ =>
    keeps_pure ()

/-- A notification of a record that is still there marks or builds entries of live records only. -/
theorem keeps_onChange {kind : ChangeKind} (remains : kind ≠ .destroy)
    (isLive : host.IsLive ⟨entityType, id⟩) :
    Keeps ids host.IsLive (onChange catalog source ⟨kind, entityType, id.value⟩) := by
  refine Keeps.bound ?_ _
  cases kind with
  | destroy => exact absurd rfl remains
  | create =>
      exact (keeps_invalidate keyed isLive _).bind fun _ _ => keeps_cascade keyed reflects aligned
  | update =>
      exact (keeps_invalidate keyed isLive _).bind fun _ _ => keeps_cascade keyed reflects aligned

end Work

/-! ## Departures -/

section Departure

variable {catalog : Catalog} {host : Host} {entityType : String} {id : Id} {index : Index}
variable (confined : index.IsConfined ids fun owner => live owner ∨ owner = ⟨entityType, id⟩)
variable (known : ids id) (nobody : index.locks.holdersOf (lockKey ⟨entityType, id⟩) = 0)
include confined known nobody

/-- The entry and the lock of an owner go, which never fails, and all that is left is of live
owners. -/
theorem forget_inv : ∃ after, forget entityType id.value index = (.ok (), after) ∧
    after.IsConfined ids live ∧ ∀ key, after.locks.holdersOf key = index.locks.holdersOf key := by
  let work : Action Index Unit := do
    if ← delete entityType id.value then note (.entryDeleted entityType id.value)
  have keeps : Keeps ids (fun owner => live owner ∨ owner = ⟨entityType, id⟩)
      (holding entityType id.value work) := by
    refine Keeps.holding entityType id ((keeps_delete known).bind fun _ _ => ?_) (Or.inr rfl)
    split
    · exact keeps_note _
    · exact keeps_pure ()
  have ran := runs_self (holding entityType id.value work) index
  obtain ⟨left, holders⟩ := keeps index confined
  cases held : holding entityType id.value work index with
  | mk outcome middle =>
      rw [held] at ran left holders
      have emptied : outcome = .ok () ∧ middle.store.find? ⟨entityType, id⟩ = none := by
        have accepts := confined.serves.accepts id known
        rcases ran.holding_inv.bind_inv with ⟨_, last, deleted, noted⟩ | ⟨failure, -, deleted⟩
        · have gone : last.find? ⟨entityType, id⟩ = none := by
            rw [(delete_inv confined.serves.opened accepts deleted).2.found, Function.update_self]
          split at noted
          · obtain ⟨done, same⟩ := noted.note_inv
            exact ⟨done, by rw [same, gone]⟩
          · obtain ⟨done, same⟩ := noted.pure_inv
            exact ⟨done, by rw [same, gone]⟩
        · exact absurd (delete_inv confined.serves.opened accepts deleted).1 (by simp)
      obtain ⟨rfl, gone⟩ := emptied
      have whole : forget entityType id.value index = discardLock entityType id.value middle := by
        show (holding entityType id.value work >>= fun _ => discardLock entityType id.value) index = _
        rw [Action.bind_apply, held]
      rw [whole, discardLock_apply]
      refine ⟨_, rfl, ⟨left.serves, fun owner present => ?_, fun key kept => ?_⟩, fun key => ?_⟩
      · rcases left.stored owner present with isLive | rfl
        · exact isLive
        · rw [gone] at present
          cases present
      · obtain ⟨owner, isLive | rfl, rfl⟩ := left.locked key (KeyedLocks.contains_of_discard kept)
        · exact ⟨owner, isLive, rfl⟩
        · have idle := (holders (lockKey ⟨entityType, id⟩)).trans nobody
          exact absurd kept (by simp [KeyedLocks.contains_discard_self idle])
      · rw [KeyedLocks.holdersOf_discard, holders]

end Departure

/-- A notification of a destroyed record drops its entry and its lock, and its cascade brings
neither back. -/
theorem onChange_destroy_inv {catalog : Catalog} {source : Source} {host : Host}
    {entityType : String} {id : Id} {index : Index} (keyed : host.IsKeyed ids)
    (reflects : source.Reflects host) (aligned : Aligned catalog host) (known : ids id)
    (confined : index.IsConfined ids fun owner => host.IsLive owner ∨ owner = ⟨entityType, id⟩)
    (nobody : index.locks.holdersOf (lockKey ⟨entityType, id⟩) = 0) :
    let after := (onChange catalog source ⟨.destroy, entityType, id.value⟩ index).2
    after.IsConfined ids host.IsLive ∧
      ∀ key, after.locks.holdersOf key = index.locks.holdersOf key := by
  intro after
  let fields : List (String × Value) := [("operation", .str ChangeKind.destroy.text),
    ("entity_type", .str entityType), ("record_id", id.value)]
  obtain ⟨middle, forgotten, gone, holders⟩ :=
    forget_inv (confined.record (.bind fields)) known nobody
  have cascades : Keeps ids host.IsLive (cascade catalog source entityType id.value) :=
    keeps_cascade keyed reflects aligned
  obtain ⟨left, lastHolders⟩ := cascades middle gone
  have whole : onChange catalog source ⟨.destroy, entityType, id.value⟩ index =
      bound fields (do forget entityType id.value; cascade catalog source entityType id.value)
        index := rfl
  simp only [after, whole, bound_apply, Action.bind_apply, forgotten]
  exact ⟨left.record .unbind, fun key => (lastHolders key).trans (holders key)⟩

end ShadowIndex.Index
