import ShadowIndex.Index.Change
import ShadowIndex.Index.Search
import ShadowIndex.Proofs.Index.Course

/-!
Contract: which rebuilds the work on the index leads to.

Owns:
- `Index.Follows`, work that is a course whose rebuilds are of some kind, whether or not it fails,
  and how such work is composed;
- notifications rebuild records one by one and only where that is asked for (`follows_onChange`),
  batches each record once (`follows_reindexAll`, `follows_rebuildAll`), and searches do both
  (`follows_search`).

Does not own: the courses themselves, or what they add to counters.
-/

set_option autoImplicit false

namespace ShadowIndex

/-! ## Stale entries of any store -/

/-- A store has one entry for an owner at most, also where its rows are out of order. -/
theorem Store.nodup_owners (store : Store) : (Listing.owners store.entries).Nodup := by
  cases store with
  | memory kept =>
      show (Listing.owners (kept.contents.rows.map fun row => Entry.mk row.1 row.2)).Nodup
      rw [Listing.owners, List.map_map]
      exact kept.contents.nodup
  | database table =>
      show (Listing.owners ((table.rows.rows.mergeSort _).map fun row =>
        Entry.mk row.1 row.2.content)).Nodup
      rw [Listing.owners, List.map_map]
      exact ((List.mergeSort_perm table.rows.rows _).map Prod.fst).nodup_iff.2 table.rows.nodup

theorem Store.staleIds_of_ok {store : Store} {entityType : String} {stale : List Entry}
    (listed : store.allStaleFor entityType = .ok stale) :
    stale.map (fun entry => entry.owner.id) = Listing.staleIds entityType store.entries := by
  cases opened : store.requireOpen with
  | error failure =>
      simp [Store.allStaleFor_eq, Store.allFor, opened, bind, Except.bind, Except.map] at listed
  | ok done =>
      have all : store.allFor entityType = .ok (Listing.ofType entityType store.entries) := by
        unfold Store.allFor
        rw [opened]
        cases store <;> rfl
      rw [Store.allStaleFor_eq, all] at listed
      cases listed
      rfl

namespace Index

variable {α β : Type} {catalog : Catalog} {source : Source}
variable {logs first second both : List Rebuild → Prop}

/-! ## Work that follows a course -/

/-- Work on any index is a course, and its rebuilds are as told, whether or not it fails. -/
def Follows (catalog : Catalog) (source : Source) (logs : List Rebuild → Prop)
    (action : Action Index α) : Prop :=
  ∀ index, ∃ log, Course catalog source index log (action index).2 ∧ logs log

/-- No rebuild. -/
def Quiet (log : List Rebuild) : Prop := log = []

theorem Quiet.nil : Quiet [] := rfl

/-- Rebuilds that are all of one kind. -/
def Every (kind : Rebuild → Prop) (log : List Rebuild) : Prop := ∀ done ∈ log, kind done

theorem Every.nil (kind : Rebuild → Prop) : Every kind [] := by
  intro done impossible
  cases impossible

namespace Follows

theorem mono {action : Action Index α} (follows : Follows catalog source first action)
    (wider : ∀ log, first log → logs log) : Follows catalog source logs action := by
  intro index
  obtain ⟨log, course, known⟩ := follows index
  exact ⟨log, course, wider log known⟩

theorem of_quiet {action : Action Index α} (follows : Follows catalog source Quiet action)
    (nil : logs []) : Follows catalog source logs action := by
  refine follows.mono fun log isNil => ?_
  rw [isNil]
  exact nil

theorem of_same {action : Action Index α} (same : ∀ index, (action index).2 = index) :
    Follows catalog source Quiet action := by
  intro index
  rw [same]
  exact ⟨[], .refl index, rfl⟩

theorem of_step {action : Action Index α}
    (step : ∀ index, Step catalog source index [] (action index).2) :
    Follows catalog source Quiet action :=
  fun index => ⟨[], .single (step index), rfl⟩

/-- Work in a row; what fails in the first part leaves out the second. -/
theorem bind {action : Action Index α} {next : α → Action Index β}
    (cut : ∀ log, first log → both log)
    (joined : ∀ log more, first log → second more → both (log ++ more))
    (earlier : Follows catalog source first action)
    (later : ∀ value, Follows catalog source second (next value)) :
    Follows catalog source both (action >>= next) := by
  intro index
  obtain ⟨log, course, known⟩ := earlier index
  rw [Action.bind_apply]
  cases ran : action index with
  | mk outcome middle =>
      rw [ran] at course
      cases outcome with
      | error failure => exact ⟨log, course, cut log known⟩
      | ok value =>
          obtain ⟨more, rest, alsoKnown⟩ := later value middle
          exact ⟨log ++ more, course.trans rest, joined log more known alsoKnown⟩

theorem quiet_bind {action : Action Index α} {next : α → Action Index β} (nil : logs [])
    (earlier : Follows catalog source Quiet action)
    (later : ∀ value, Follows catalog source logs (next value)) :
    Follows catalog source logs (action >>= next) := by
  refine bind (fun log isNil => ?_) (fun log more isNil known => ?_) earlier later
  · rw [isNil]
    exact nil
  · rw [isNil]
    exact known

theorem bind_quiet {action : Action Index α} {next : α → Action Index β}
    (earlier : Follows catalog source logs action)
    (later : ∀ value, Follows catalog source Quiet (next value)) :
    Follows catalog source logs (action >>= next) := by
  refine bind (fun log known => known) (fun log more known isNil => ?_) earlier later
  rw [isNil, List.append_nil]
  exact known

theorem bind_every {kind : Rebuild → Prop} {action : Action Index α} {next : α → Action Index β}
    (earlier : Follows catalog source (Every kind) action)
    (later : ∀ value, Follows catalog source (Every kind) (next value)) :
    Follows catalog source (Every kind) (action >>= next) := by
  refine bind (fun log known => known) (fun log more known alsoKnown done member => ?_)
    earlier later
  rcases List.mem_append.1 member with now | later
  · exact known done now
  · exact alsoKnown done later

theorem each {kind : Rebuild → Prop} {action : α → Action Index β} {items : List α}
    (follows : ∀ item ∈ items, Follows catalog source (Every kind) (action item)) :
    Follows catalog source (Every kind) (Action.each action items) := by
  induction items with
  | nil => exact (of_same fun _ => rfl).of_quiet (Every.nil kind)
  | cons item rest inductionHypothesis =>
      apply bind_every (follows item (by simp))
      intro value
      apply bind_quiet (inductionHypothesis fun other member => follows other (by simp [member]))
      exact fun values => of_same fun _ => rfl

theorem each_quiet {action : α → Action Index β} {items : List α}
    (quiet : ∀ item, Follows catalog source Quiet (action item)) :
    Follows catalog source Quiet (Action.each action items) := by
  have none : Follows catalog source (Every fun _ => False) (Action.each action items) :=
    each fun item _ => (quiet item).of_quiet (Every.nil _)
  exact none.mono fun log absent => List.eq_nil_iff_forall_not_mem.2 absent

theorem attempt {action : Action Index α} (follows : Follows catalog source logs action) :
    Follows catalog source logs action.attempt :=
  fun index => follows index

theorem ensuring {action : Action Index α} {finish : Except Failure α → Index → Index}
    (follows : Follows catalog source logs action)
    (step : ∀ outcome index, Step catalog source index [] (finish outcome index)) :
    Follows catalog source logs (action.ensuring finish) := by
  intro index
  obtain ⟨log, course, known⟩ := follows index
  have closed := course.trans (.single (step (action index).1 (action index).2))
  rw [List.append_nil] at closed
  exact ⟨log, closed, known⟩

end Follows

/-! ### Brackets and parts -/

theorem follows_emit {event : Event} (silent : event.isSilent = true) :
    Follows catalog source Quiet (emit event) :=
  Follows.of_step fun _ => .event event silent

theorem follows_note {note : Note} (silent : note.failure? = none) :
    Follows catalog source Quiet (Index.note note) :=
  follows_emit (by simp [Event.isSilent, Event.failure?, silent])

theorem follows_pure (value : α) : Follows catalog source Quiet (pure value) :=
  Follows.of_same fun _ => rfl

theorem follows_lift (outcome : Except Failure α) :
    Follows catalog source Quiet (Action.lift outcome) :=
  Follows.of_same fun _ => rfl

theorem follows_resolve (entityType : String) (id : Value) (relation : String) :
    Follows catalog source Quiet (reading (source.resolve entityType id relation)) :=
  Follows.of_step fun _ => .resolve entityType id relation

theorem follows_candidates (entityType : String) (scope : Scope) :
    Follows catalog source Quiet (reading (source.candidates entityType scope)) :=
  Follows.of_step fun _ => .list entityType scope

theorem follows_query (look : Store → Except Failure α) :
    Follows catalog source Quiet (query look) :=
  Follows.of_same fun _ => rfl

theorem follows_delete (entityType : String) (id : Value) :
    Follows catalog source Quiet (delete entityType id) :=
  Follows.of_step fun _ => .delete entityType id

theorem follows_ensureStale (entityType : String) (id : Value) :
    Follows catalog source Quiet (ensureStale entityType id) :=
  Follows.of_step fun _ => .flag entityType id

theorem follows_discardLock (entityType : String) (id : Value) :
    Follows catalog source Quiet (discardLock entityType id) :=
  (follows_lift id.key).quiet_bind Quiet.nil fun _ => Follows.of_step fun _ => .locks _

namespace Follows

variable {work : Action Index α}

theorem bound (nil : logs []) (follows : Follows catalog source logs work)
    (fields : List (String × Value)) : Follows catalog source logs (bound fields work) :=
  (follows_emit rfl).quiet_bind nil fun _ => follows.ensuring fun _ _ => .event .unbind rfl

theorem span (nil : logs []) (follows : Follows catalog source logs work) (name : String)
    (attributes : List (String × Value)) :
    Follows catalog source logs (span name attributes work) := by
  refine (follows_emit rfl).quiet_bind nil fun _ => follows.ensuring fun outcome _ => ?_
  cases outcome <;> exact .event (.closeSpan _) rfl

theorem timed (follows : Follows catalog source logs work) (labels : List (String × String)) :
    Follows catalog source logs (timed labels work) :=
  follows.ensuring fun _ _ => .event (.count .latency labels 1) rfl

theorem holding (nil : logs []) (follows : Follows catalog source logs work) (entityType : String)
    (id : Value) : Follows catalog source logs (holding entityType id work) := by
  refine (follows_lift id.key).quiet_bind nil fun key => ?_
  refine (of_step fun index => .locks _).quiet_bind nil fun _ => ?_
  exact follows.ensuring fun _ _ => .locks _

end Follows

/-! ## Rebuilds of one record -/

/-- A rebuild of a record of a type that is not in a batch. -/
def Rebuild.IsAloneOf (entityType : String) (done : Rebuild) : Prop :=
  done.inBatch = false ∧ done.record.1 = entityType

theorem holding_of_key {entityType : String} {id : Value} {key : Key} (isKey : id.key = .ok key)
    (work : Action Index α) (index : Index) :
    let ran := work { index with locks := index.locks.enter (entityType, key) }
    holding entityType id work index =
      (ran.1, { ran.2 with locks := ran.2.locks.leave (entityType, key) }) := by
  rw [holding, isKey]
  rfl

/-- Work on one record alone: a course, or one that is a course once its failure is noted. -/
def Alone (catalog : Catalog) (source : Source) (entityType : String)
    (action : Action Index α) (index : Index) : Prop :=
  (Unfailed (action index).1 ∧
    ∃ log, Course catalog source index log (action index).2 ∧
      Every (Rebuild.IsAloneOf entityType) log) ∨
  ∃ failure, (action index).1 = .error failure ∧ isRebuildFailure failure = true ∧
    ∃ log, Every (Rebuild.IsAloneOf entityType) log ∧ ∀ note : Note, note.failure? = some failure →
      Course catalog source index log ((action index).2.record (.note note))

theorem alone_held (catalog : Catalog) (source : Source) (entityType : String) (id : Value)
    (index : Index) :
    Alone catalog source entityType (holding entityType id (rebuild catalog source entityType id))
      index := by
  cases isKey : id.key with
  | error failure =>
      refine Or.inl ⟨fun other failed => ?_, [], ?_, Every.nil _⟩
      · rw [holding, isKey] at failed
        cases failed
        exact unfailed_of_key isKey
      · rw [holding, isKey]
        exact .refl index
  | ok key =>
      have entered : Step catalog source index []
          { index with locks := index.locks.enter (entityType, key) } := .locks _
      -- A failure is noted only after the lock is left, so that step waits for the note.
      rw [Alone, holding_of_key isKey]
      generalize { index with locks := index.locks.enter (entityType, key) } = start at entered
      rcases failed_or_unfailed (rebuild catalog source entityType id start).1 with
        ⟨failure, failed, isFailure⟩ | unfailed
      · refine Or.inr ⟨failure, failed, isFailure, [⟨(entityType, key), false, .failed failure⟩],
          by simp [Every, Rebuild.IsAloneOf], fun note tells => ?_⟩
        exact .step entered (.single (.noted entityType isKey failed isFailure _ tells))
      · refine Or.inl ⟨unfailed,
          [⟨(entityType, key), false, .of (rebuild catalog source entityType id start).1⟩], ?_,
          by simp [Every, Rebuild.IsAloneOf]⟩
        exact .step entered (.step (.alone entityType isKey unfailed) (.single (.locks _)))

theorem unfailed_of_discardLock (entityType : String) (id : Value) (value : α) (index : Index) :
    Unfailed ((discardLock entityType id >>= fun _ => pure value) index).1 := by
  intro failure failed
  rw [discardLock, Action.bind_apply, Action.bind_apply] at failed
  cases isKey : id.key with
  | error refusal =>
      rw [isKey] at failed
      cases failed
      exact unfailed_of_key isKey
  | ok key =>
      rw [isKey] at failed
      cases failed

theorem alone_reindexOne (catalog : Catalog) (source : Source) (entityType : String) (id : Value)
    (index : Index) :
    Alone catalog source entityType (reindexOne catalog source entityType id) index := by
  have held := alone_held catalog source entityType id index
  rw [Alone, reindexOne, Action.bind_apply]
  rw [Alone] at held
  cases ran : holding entityType id (rebuild catalog source entityType id) index with
  | mk outcome middle =>
      rw [ran] at held
      cases outcome with
      | error failure => exact held
      | ok built? =>
          obtain ⟨-, log, course, known⟩ :=
            held.resolve_right fun ⟨failure, failed, _⟩ => by cases failed
          -- All that is left is to forget the lock, which fails no rebuild.
          have finish : Follows catalog source Quiet
              (discardLock entityType id >>= fun _ => pure built?) :=
            (follows_discardLock entityType id).bind_quiet fun _ => follows_pure built?
          left
          dsimp only
          split
          · obtain ⟨more, rest, rfl⟩ := finish middle
            exact ⟨unfailed_of_discardLock entityType id built? middle, log ++ [],
              course.trans rest, by simpa using known⟩
          · refine ⟨fun failure failed => ?_, log, course, known⟩
            cases failed

/-- A rebuild of one record whose failure is noted, if it is one that a rebuild has. -/
theorem follows_tried (entityType : String) (id : Value) (give : Option Entry → α)
    {tell : Failure → Action Index α}
    (tells : ∀ failure, ∃ note : Note, note.failure? = some failure ∧
      ∀ index, (tell failure index).2 = index.record (.note note)) :
    Follows catalog source (Every (Rebuild.IsAloneOf entityType)) (do
      match ← (reindexOne catalog source entityType id).attempt with
      | .ok built? => return give built?
      | .error failure =>
          if isRebuildFailure failure then tell failure else Action.fail failure) := by
  intro index
  have alone := alone_reindexOne catalog source entityType id index
  rw [Action.bind_apply, Action.attempt]
  rw [Alone] at alone
  cases ran : reindexOne catalog source entityType id index with
  | mk outcome after =>
      rw [ran] at alone
      rcases alone with
        ⟨unfailed, log, course, known⟩ | ⟨failure, failed, isFailure, log, known, told⟩
      · refine ⟨log, ?_, known⟩
        cases outcome with
        | ok built? => exact course
        | error failure =>
            simp only [unfailed failure rfl]
            exact course
      · cases failed
        obtain ⟨note, isTold, noted⟩ := tells failure
        refine ⟨log, ?_, known⟩
        simp only [isFailure, if_true, noted]
        exact told note isTold

/-! ## Notifications -/

/-- A rebuild right after a change. -/
def Rebuild.IsEager (settings : Settings) (done : Rebuild) : Prop :=
  settings.eagerReindex = true ∧ done.inBatch = false

section Notifications

variable (catalog : Catalog) (source : Source)

theorem follows_invalidate (cause entityType : String) (id : Value) :
    Follows catalog source (Every (Rebuild.IsEager catalog.settings))
      (invalidate catalog source cause entityType id) := by
  have nil := Every.nil (Rebuild.IsEager catalog.settings)
  unfold invalidate
  split
  · exact (follows_pure _).of_quiet nil
  · apply Follows.quiet_bind nil ((follows_ensureStale entityType id).holding Quiet.nil _ _)
    intro given
    apply Follows.quiet_bind nil (follows_emit rfl)
    intro counted
    split
    · exact (follows_pure _).of_quiet nil
    · rename_i eager
      refine (follows_tried entityType id (fun _ => ()) fun failure =>
        ⟨.eagerFailed failure, rfl, fun _ => rfl⟩).mono fun log alone done member =>
          ⟨by simpa using eager, (alone done member).1⟩

theorem follows_cascadeAlong (entityType : String) (id : Value) (edge : Dependency) :
    Follows catalog source (Every (Rebuild.IsEager catalog.settings))
      (cascadeAlong catalog source entityType id edge) := by
  have nil := Every.nil (Rebuild.IsEager catalog.settings)
  unfold cascadeAlong
  split
  · exact (follows_note rfl).of_quiet nil
  · apply Follows.quiet_bind nil (follows_resolve entityType id edge.relation).attempt
    intro resolved
    split
    · exact (Follows.of_same fun _ => rfl).of_quiet nil
    · apply Follows.bind_quiet
        (Follows.each fun dependent _ => follows_invalidate catalog source _ _ _)
      intro marked
      split
      · exact follows_note rfl
      · exact follows_pure _

theorem follows_forget (entityType : String) (id : Value) :
    Follows catalog source Quiet (forget entityType id) := by
  unfold forget
  apply Follows.quiet_bind Quiet.nil
  · apply Follows.holding Quiet.nil
    apply Follows.quiet_bind Quiet.nil (follows_delete entityType id)
    intro removed
    split
    · exact follows_note rfl
    · exact follows_pure _
  · exact fun _ => follows_discardLock entityType id

theorem follows_onChange (change : Change) :
    Follows catalog source (Every (Rebuild.IsEager catalog.settings))
      (onChange catalog source change) := by
  have nil := Every.nil (Rebuild.IsEager catalog.settings)
  have dependents : Follows catalog source (Every (Rebuild.IsEager catalog.settings))
      (cascade catalog source change.entityType change.id) :=
    Follows.bind_quiet (Follows.each fun edge _ => follows_cascadeAlong catalog source _ _ edge)
      fun _ => follows_pure _
  apply Follows.bound nil
  split
  · exact ((follows_forget catalog source _ _).of_quiet nil).bind_every fun _ => dependents
  · exact (follows_invalidate catalog source _ _ _).bind_every fun _ => dependents

end Notifications

/-! ## Batches -/

/-- Rebuilds in a batch, of some records at most, each of them once. -/
structure Members (records : List (String × Key)) (log : List Rebuild) : Prop where
  inBatch : ∀ done ∈ log, done.inBatch = true
  within : (log.map Rebuild.record).Sublist records

theorem Members.nil (records : List (String × Key)) : Members records [] :=
  ⟨by simp, List.nil_sublist records⟩

theorem Members.append {records others : List (String × Key)} {log more : List Rebuild}
    (first : Members records log) (second : Members others more) :
    Members (records ++ others) (log ++ more) where
  inBatch done member := by
    rcases List.mem_append.1 member with now | later
    · exact first.inBatch done now
    · exact second.inBatch done later
  within := by
    rw [List.map_append]
    exact first.within.append second.within

/-- Rebuilds of records of one type, of which those in a batch are of distinct records. -/
structure OfType (entityType : String) (log : List Rebuild) : Prop where
  typed : ∀ done ∈ log, done.record.1 = entityType
  once : ((log.filter Rebuild.inBatch).map Rebuild.record).Nodup

theorem OfType.nil (entityType : String) : OfType entityType [] := ⟨by simp, by simp⟩

theorem OfType.append_alone {entityType : String} {log more : List Rebuild}
    (first : OfType entityType log) (alone : Every (Rebuild.IsAloneOf entityType) more) :
    OfType entityType (log ++ more) where
  typed done member := by
    rcases List.mem_append.1 member with now | later
    · exact first.typed done now
    · exact (alone done later).2
  once := by
    have none : more.filter Rebuild.inBatch = [] :=
      List.filter_eq_nil_iff.2 fun done member => by simp [(alone done member).1]
    rw [List.filter_append, none, List.append_nil]
    exact first.once

/-- One batch of a type. -/
structure Whole (entityType : String) (log : List Rebuild) : Prop extends
    OfType entityType log where
  inBatch : ∀ done ∈ log, done.inBatch = true

theorem Whole.nil (entityType : String) : Whole entityType [] := ⟨.nil entityType, by simp⟩

theorem Members.whole {entityType : String} {ids : List Id} {log : List Rebuild}
    (nodup : ids.Nodup) (members : Members (ids.map fun id => (entityType, id.key)) log) :
    Whole entityType log where
  typed done member := by
    obtain ⟨id, -, isRecord⟩ := List.mem_map.1
      (members.within.subset (List.mem_map_of_mem (f := Rebuild.record) member))
    rw [← isRecord]
  once := by
    rw [List.filter_eq_self.2 members.inBatch]
    refine members.within.nodup (nodup.map fun left right same => ?_)
    exact Id.key_injective (Prod.mk.inj same).2
  inBatch := members.inBatch

section Batches

variable (catalog : Catalog) (source : Source) (entityType : String)

theorem follows_refreshHeld (id : Id) :
    Follows catalog source (Members [(entityType, id.key)])
      (refreshHeld catalog source entityType id) := by
  have nil := Members.nil [(entityType, id.key)]
  apply Follows.quiet_bind nil (follows_query _)
  intro current?
  split
  · exact (follows_pure _).of_quiet nil
  · split
    · exact (follows_pure _).of_quiet nil
    · intro index
      have step : Step catalog source index _ _ := .member entityType (Value.key_value id)
      refine ⟨[⟨(entityType, id.key), true,
        .of (rebuild catalog source entityType id.value index).1⟩], ?_, by simp, by simp⟩
      rw [Action.bind_apply, Action.attempt]
      cases ran : rebuild catalog source entityType id.value index with
      | mk outcome after =>
          rw [ran] at step
          rcases outcome with failure | none | entry
          · by_cases handled : isRebuildFailure failure = true
            · simp only [counting, handled, if_true] at step ⊢
              exact .single step
            · simp only [counting, handled, Bool.false_eq_true, if_false] at step ⊢
              exact .single step
          · exact .single step
          · exact .single step

theorem follows_refresh (id : Id) :
    Follows catalog source (Members [(entityType, id.key)])
      (refresh catalog source entityType id) := by
  apply Follows.bind_quiet
  · exact (follows_refreshHeld catalog source entityType id).holding (Members.nil _) _ _
  · intro outcome
    split
    · exact (follows_discardLock _ _).quiet_bind Quiet.nil fun _ => follows_pure _
    · exact follows_pure _

theorem follows_members (ids : List Id) :
    Follows catalog source (Members (ids.map fun id => (entityType, id.key)))
      (Action.each (refresh catalog source entityType) ids) := by
  induction ids with
  | nil => exact (follows_pure _).of_quiet (Members.nil _)
  | cons id rest inductionHypothesis =>
      apply Follows.bind (fun log known => ⟨known.inBatch, known.within.trans (by simp)⟩)
        (fun log more known alsoKnown => known.append alsoKnown)
        (follows_refresh catalog source entityType id)
      exact fun value => inductionHypothesis.bind_quiet fun values => follows_pure _

theorem follows_refreshAll :
    Follows catalog source (Whole entityType) (refreshAll catalog source entityType) := by
  intro index
  unfold refreshAll
  rw [Action.bind_apply, query]
  cases listed : index.store.allStaleFor entityType with
  | error failure => exact ⟨[], .refl index, Whole.nil entityType⟩
  | ok stale =>
      -- The batch goes over the ids as they were listed before it, so that none is met twice.
      have nodup : (Listing.staleIds entityType index.store.entries).Nodup :=
        Listing.nodup_staleIds index.store.nodup_owners
      rw [← Store.staleIds_of_ok listed] at nodup
      have batch := (follows_members catalog source entityType
        (stale.map fun entry => entry.owner.id)).mono fun log members => members.whole nodup
      refine Follows.bind_quiet batch (fun members => ?_) index
      refine Follows.quiet_bind Quiet.nil (follows_emit rfl) fun _ => ?_
      exact Follows.quiet_bind Quiet.nil (follows_emit rfl) fun _ => follows_pure _

theorem follows_reindexAll :
    Follows catalog source (Whole entityType) (reindexAll catalog source entityType) := by
  have nil := Whole.nil entityType
  apply Follows.bind_quiet
  · exact ((follows_refreshAll catalog source entityType).span nil _ _).bound nil _
  · intro report
    split
    · exact (follows_note rfl).quiet_bind Quiet.nil fun _ => follows_pure _
    · exact follows_pure _

theorem follows_dropOrphan (id : Id) :
    Follows catalog source Quiet (dropOrphan entityType id) :=
  ((follows_delete entityType id.value).holding Quiet.nil _ _).quiet_bind Quiet.nil fun _ =>
    follows_discardLock entityType id.value

theorem follows_rebuildAll :
    Follows catalog source (Whole entityType) (rebuildAll catalog source entityType) := by
  have nil := Whole.nil entityType
  apply Follows.quiet_bind nil (follows_candidates entityType .all)
  intro candidates
  apply Follows.quiet_bind nil (follows_lift _)
  intro known
  apply Follows.quiet_bind nil (follows_query _)
  intro owners
  apply Follows.quiet_bind nil
    (Follows.each_quiet fun id => follows_dropOrphan catalog source entityType id)
  intro dropped
  apply Follows.quiet_bind nil
    (Follows.each_quiet fun id => (follows_ensureStale entityType id).holding Quiet.nil _ _)
  intro flagged
  exact (follows_reindexAll catalog source entityType).bind_quiet fun report => follows_pure _

end Batches

/-! ## Searches -/

/-- A rebuild of a record that a search looks at. -/
def Rebuild.IsLazy (settings : Settings) (entityType : String) (done : Rebuild) : Prop :=
  settings.reindexOnSearch = true ∧ done.IsAloneOf entityType

/-- The rebuilds of a search: one batch at most, and then records one by one. -/
structure Served (settings : Settings) (entityType : String) (log : List Rebuild) : Prop extends
    OfType entityType log where
  asked : ∀ done ∈ log, settings.reindexOnSearch = true

section Searches

variable (catalog : Catalog) (source : Source) (entityType : String)

theorem Served.nil (settings : Settings) : Served settings entityType [] :=
  ⟨.nil entityType, by simp⟩

theorem follows_freshEntry (id : Value) :
    Follows catalog source (Every (Rebuild.IsLazy catalog.settings entityType))
      (freshEntry catalog source entityType id) := by
  have nil := Every.nil (Rebuild.IsLazy catalog.settings entityType)
  apply Follows.quiet_bind nil (follows_query _)
  intro stored
  split
  · exact (follows_pure _).of_quiet nil
  · split
    · exact (follows_pure _).of_quiet nil
    · rename_i asked
      refine (follows_tried entityType id (fun built? => built?) fun failure =>
        ⟨.excluded entityType id failure, rfl, fun _ => rfl⟩).mono fun log alone done member =>
          ⟨by simpa using asked, alone done member⟩

theorem follows_hits (query : Query) (candidates : List Value) :
    Follows catalog source (Every (Rebuild.IsLazy catalog.settings entityType))
      (Action.each (hit catalog source entityType query) candidates) :=
  Follows.each fun id _ => (follows_freshEntry catalog source entityType id).bind_quiet fun _ =>
    follows_pure _

theorem follows_examine (query : Query) (candidates : List Value) :
    Follows catalog source (Served catalog.settings entityType)
      (examine catalog source entityType query candidates) := by
  have nil := Served.nil entityType catalog.settings
  have looked : Follows catalog source (Every (Rebuild.IsLazy catalog.settings entityType)) (do
      let hits ← Action.each (hit catalog source entityType query) candidates
      let ids := hits.filterMap id
      emit (.setAttribute "record_search.results" (.int ids.length))
      return (⟨ids, some candidates.length⟩ : Found)) :=
    (follows_hits catalog source entityType query candidates).bind_quiet fun hits =>
      (follows_emit rfl).quiet_bind Quiet.nil fun _ => follows_pure _
  unfold examine
  dsimp only
  split
  · exact ((follows_note rfl).quiet_bind Quiet.nil fun _ => follows_pure _).of_quiet nil
  · split
    · exact ((follows_note rfl).quiet_bind Quiet.nil fun _ => follows_pure _).of_quiet nil
    · split
      · rename_i asked
        refine Follows.bind (fun log whole => ⟨whole.toOfType, fun _ _ => asked⟩)
          (fun log more whole lazy => ⟨?_, fun _ _ => asked⟩)
          (follows_reindexAll catalog source entityType) fun report => looked
        exact whole.toOfType.append_alone fun done member => (lazy done member).2
      · refine looked.mono fun log lazy => ⟨?_, fun done member => (lazy done member).1⟩
        exact (OfType.nil entityType).append_alone fun done member => (lazy done member).2

theorem follows_parse (text : Option String) : Follows catalog source Quiet (parse text) := by
  apply Follows.quiet_bind Quiet.nil
  · apply Follows.each_quiet
    intro token
    split
    · exact follows_note rfl
    · exact follows_pure _
  · exact fun _ => (follows_note rfl).quiet_bind Quiet.nil fun _ => follows_pure _

theorem follows_search (text : Option String) (scope : Scope) :
    Follows catalog source (Served catalog.settings entityType)
      (search catalog source entityType text scope) := by
  have nil := Served.nil entityType catalog.settings
  apply Follows.quiet_bind nil (follows_parse catalog source text)
  intro query
  apply Follows.quiet_bind nil (follows_emit rfl)
  intro counted
  apply Follows.bind_quiet
  · apply Follows.bound nil
    apply Follows.timed
    apply Follows.span nil
    apply Follows.quiet_bind nil (follows_candidates entityType scope)
    intro candidates
    split
    · exact (follows_pure _).of_quiet nil
    · exact follows_examine catalog source entityType query candidates
  · intro found
    split
    · exact (follows_note rfl).quiet_bind Quiet.nil fun _ => follows_pure _
    · exact follows_pure _

end Searches

end Index

end ShadowIndex
