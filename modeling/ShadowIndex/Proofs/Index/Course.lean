import ShadowIndex.Index.Search
import ShadowIndex.Proofs.Index.Attempt
import ShadowIndex.Proofs.Index.Flagging

/-!
Contract: the rebuilds that work on the index is made of.

Owns:
- `Index.Rebuild`, one rebuild of the entry of a record, for a batch or for the record alone, with
  what became of it;
- `Index.Step` and `Index.Course`: the index changes by rebuilds, removals, flags, locks and notes
  only, and every rebuild that fails is noted where it fails;
- what a course adds to the counters of rebuilds, to the failures that are noted, and to the fresh
  entries of the store (`Course.total_reindexed`, `Course.total_failures`, `Course.failures`,
  `Course.fresh`).

Does not own: which work leads to which course.
-/

set_option autoImplicit false

namespace ShadowIndex

/-! ## Noted failures -/

/-- The rebuild failure that a note tells of. -/
def Note.failure? : Note → Option Failure
  | .staysStale failure | .eagerFailed failure | .excluded _ _ failure => some failure
  | _ => none

/-- The record that a rebuild failure names. -/
def Failure.record? : Failure → Option (String × Key)
  | .reindex entityType id _ _ => id.key.toOption.map fun key => (entityType, key)
  | _ => none

def Event.failure? : Event → Option Failure
  | .note written => written.failure?
  | _ => none

/-- The rebuild failures that were noted, in order. -/
def Trail.failures (trail : Trail) : List Failure := trail.events.filterMap Event.failure?

/-- An event that tells of no rebuild. -/
def Event.isSilent : Event → Bool
  | .count .reindexed .. | .count .reindexFailures .. => false
  | event => event.failure?.isNone

theorem Event.failure?_of_isSilent {event : Event} (silent : event.isSilent = true) :
    event.failure? = none := by
  cases event with
  | note note => simpa [isSilent] using silent
  | _ => rfl

namespace Index

/-! ## Rebuilds -/

/-- What became of a rebuild: the entry that it wrote, or the removal of one, a failure to build it,
or any other failure, which ends the work around it. -/
inductive Ending where
  | built (entry : Entry)
  | removed
  | failed (failure : Failure)
  | stopped (failure : Failure)

def Ending.of : Except Failure (Option Entry) → Ending
  | .ok (some entry) => .built entry
  | .ok none => .removed
  | .error failure => if isRebuildFailure failure then .failed failure else .stopped failure

/-- One rebuild of the entry of a record, in a batch or for the record alone. -/
structure Rebuild where
  record : String × Key
  inBatch : Bool
  ending : Ending

namespace Rebuild

variable {done : Rebuild}

/-- Whether a fresh entry of a type was written. -/
def isBuilt (entityType : String) (rebuild : Rebuild) : Bool :=
  match rebuild.ending with
  | .built _ => decide (rebuild.record.1 = entityType)
  | _ => false

def failure? (rebuild : Rebuild) : Option Failure :=
  match rebuild.ending with
  | .failed failure => some failure
  | _ => none

/-- Whether the rebuild of a record of a type failed. -/
def isFailed (entityType : String) (rebuild : Rebuild) : Bool :=
  rebuild.failure?.isSome && decide (rebuild.record.1 = entityType)

theorem failure?_eq_some {failure : Failure} :
    done.failure? = some failure ↔ done.ending = .failed failure := by
  unfold failure?
  cases done.ending <;> simp

end Rebuild

theorem Ending.of_eq_failed {result : Except Failure (Option Entry)} {failure : Failure}
    (failed : Ending.of result = .failed failure) :
    result = .error failure ∧ isRebuildFailure failure = true := by
  match result with
  | .ok (some entry) => cases failed
  | .ok none => cases failed
  | .error other =>
      rw [Ending.of] at failed
      split at failed
      · cases failed
        exact ⟨rfl, ‹_›⟩
      · cases failed

theorem Ending.of_eq_built {result : Except Failure (Option Entry)} {entry : Entry}
    (built : Ending.of result = .built entry) : result = .ok (some entry) := by
  match result with
  | .ok (some other) =>
      cases built
      rfl
  | .ok none => cases built
  | .error failure =>
      rw [Ending.of] at built
      split at built <;> cases built

/-- The counter of entries of a type that were rebuilt. -/
def reindexedOf (entityType : String) : Counter := ⟨.reindexed, [("entity_type", entityType)]⟩

/-- The counter of entries of a type that could not be rebuilt. -/
def failuresOf (entityType : String) : Counter :=
  ⟨.reindexFailures, [("entity_type", entityType)]⟩

variable {catalog : Catalog} {source : Source} {index : Index} {entityType : String}

/-! ## Steps -/

/-- What a batch adds to a rebuild that fails: a note, and one of the counter of failures. -/
def counting (entityType : String) (result : Except Failure (Option Entry)) (index : Index) :
    Index :=
  match result with
  | .error failure =>
      if isRebuildFailure failure then
        (index.record (.note (.staysStale failure))).record
          (.count .reindexFailures [("entity_type", entityType)] 1)
      else index
  | .ok _ => index

theorem counting_of_unfailed {result : Except Failure (Option Entry)}
    (unfailed : Unfailed result) (index : Index) : counting entityType result index = index := by
  cases result with
  | ok built? => rfl
  | error failure => simp [counting, unfailed failure rfl]

theorem store_counting (entityType : String) (result : Except Failure (Option Entry))
    (index : Index) : (counting entityType result index).store = index.store := by
  unfold counting
  split
  · split <;> rfl
  · rfl

/-- One step of work on the index, with the rebuild that it is, if it is one. A rebuild that fails
is noted before anything else happens, but for locks that are left. -/
inductive Step (catalog : Catalog) (source : Source) : Index → List Rebuild → Index → Prop where
  | event {index : Index} (event : Event) (silent : event.isSilent = true) :
      Step catalog source index [] (index.record event)
  | locks {index : Index} (locks : KeyedLocks LockKey) :
      Step catalog source index [] { index with locks := locks }
  | resolve {index : Index} (entityType : String) (id : Value) (relation : String) :
      Step catalog source index [] (reading (source.resolve entityType id relation) index).2
  | list {index : Index} (entityType : String) (scope : Scope) :
      Step catalog source index [] (reading (source.candidates entityType scope) index).2
  | delete {index : Index} (entityType : String) (id : Value) :
      Step catalog source index [] (delete entityType id index).2
  | flag {index : Index} (entityType : String) (id : Value) :
      Step catalog source index [] (ensureStale entityType id index).2
  | alone {index : Index} {id : Value} {key : Key} (entityType : String)
      (isKey : id.key = .ok key)
      (unfailed : Unfailed (rebuild catalog source entityType id index).1) :
      Step catalog source index
        [⟨(entityType, key), false, .of (rebuild catalog source entityType id index).1⟩]
        (rebuild catalog source entityType id index).2
  | noted {index : Index} {id : Value} {key : Key} (entityType : String)
      (isKey : id.key = .ok key) {failure : Failure}
      (failed : (rebuild catalog source entityType id index).1 = .error failure)
      (handled : isRebuildFailure failure = true) (locks : KeyedLocks LockKey) {note : Note}
      (tells : note.failure? = some failure) :
      Step catalog source index [⟨(entityType, key), false, .failed failure⟩]
        ({ (rebuild catalog source entityType id index).2 with locks := locks }.record (.note note))
  | member {index : Index} {id : Value} {key : Key} (entityType : String)
      (isKey : id.key = .ok key) :
      Step catalog source index
        [⟨(entityType, key), true, .of (rebuild catalog source entityType id index).1⟩]
        (counting entityType (rebuild catalog source entityType id index).1
          (rebuild catalog source entityType id index).2)

/-- Steps in a row, with their rebuilds in order. -/
inductive Course (catalog : Catalog) (source : Source) : Index → List Rebuild → Index → Prop where
  | refl (index : Index) : Course catalog source index [] index
  | step {before middle after : Index} {log more : List Rebuild}
      (first : Step catalog source before log middle)
      (rest : Course catalog source middle more after) :
      Course catalog source before (log ++ more) after

namespace Course

variable {before middle after : Index} {log more : List Rebuild}

theorem single (step : Step catalog source before log after) :
    Course catalog source before log after := by
  rw [← List.append_nil log]
  exact .step step (.refl after)

theorem trans (first : Course catalog source before log middle)
    (second : Course catalog source middle more after) :
    Course catalog source before (log ++ more) after := by
  induction first with
  | refl _ => exact second
  | step first _ inductionHypothesis =>
      rw [List.append_assoc]
      exact .step first (inductionHypothesis second)

end Course

/-! ## What is told of rebuilds -/

/-- Events that say of rebuilds what there is to say: how many entries of each type were written,
which failures there were, and how many of them a batch met. -/
structure Tells (log : List Rebuild) (events : List Event) : Prop where
  reindexed : ∀ entityType, Event.total (reindexedOf entityType) events =
    log.countP (Rebuild.isBuilt entityType)
  failures : events.filterMap Event.failure? = log.filterMap Rebuild.failure?
  counted : ∀ entityType, Event.total (failuresOf entityType) events =
    log.countP fun rebuild => rebuild.inBatch && rebuild.isFailed entityType

theorem Tells.nil : Tells [] [] := ⟨fun _ => rfl, rfl, fun _ => rfl⟩

theorem Tells.append {log more : List Rebuild} {events others : List Event}
    (first : Tells log events) (second : Tells more others) :
    Tells (log ++ more) (events ++ others) where
  reindexed entityType := by
    rw [Event.total_append, List.countP_append, first.reindexed, second.reindexed]
  failures := by
    rw [List.filterMap_append, List.filterMap_append, first.failures, second.failures]
  counted entityType := by
    rw [Event.total_append, List.countP_append, first.counted, second.counted]

/-- An event that tells of no rebuild adds to neither counter. -/
theorem Tells.silent {event : Event} (silent : event.isSilent = true) : Tells [] [event] where
  reindexed entityType := by
    cases event with
    | count metric labels amount =>
        cases metric <;> simp_all [Event.isSilent, Event.total, Event.amount, reindexedOf]
    | _ => rfl
  failures := by simp [Event.failure?_of_isSilent silent]
  counted entityType := by
    cases event with
    | count metric labels amount =>
        cases metric <;> simp_all [Event.isSilent, Event.total, Event.amount, failuresOf]
    | _ => rfl

theorem Tells.built (record : String × Key) (inBatch : Bool) (entry : Entry) :
    Tells [⟨record, inBatch, .built entry⟩]
      [.count .reindexed [("entity_type", record.1)] 1] where
  reindexed entityType := by
    by_cases same : record.1 = entityType <;>
      simp [Event.total, Event.amount, reindexedOf, Rebuild.isBuilt, same]
  failures := rfl
  counted entityType := by
    simp [Event.total, Event.amount, failuresOf, Rebuild.isFailed, Rebuild.failure?]

theorem Tells.removed (record : String × Key) (inBatch : Bool) (entityType : String) (id : Value) :
    Tells [⟨record, inBatch, .removed⟩] [.note (.vanishedRemoved entityType id)] :=
  ⟨fun _ => rfl, rfl, fun _ => by
    simp [Event.total, Event.amount, Rebuild.isFailed, Rebuild.failure?]⟩

theorem Tells.stopped (record : String × Key) (inBatch : Bool) (failure : Failure) :
    Tells [⟨record, inBatch, .stopped failure⟩] [] :=
  ⟨fun _ => rfl, rfl, fun _ => by simp [Event.total, Rebuild.isFailed, Rebuild.failure?]⟩

theorem Tells.noted (record : String × Key) {failure : Failure} {note : Note}
    (tells : note.failure? = some failure) :
    Tells [⟨record, false, .failed failure⟩] [.note note] :=
  ⟨fun _ => rfl, by simp [Event.failure?, tells, Rebuild.failure?], fun _ => rfl⟩

theorem Tells.counted_member (record : String × Key) (failure : Failure) :
    Tells [⟨record, true, .failed failure⟩]
      [.note (.staysStale failure), .count .reindexFailures [("entity_type", record.1)] 1] where
  reindexed entityType := rfl
  failures := rfl
  counted entityType := by
    by_cases same : record.1 = entityType <;>
      simp [Event.total, Event.amount, failuresOf, Rebuild.isFailed, Rebuild.failure?, same]

/-- A rebuild that fails tells nothing; any other tells what became of it. -/
theorem Attempt.tells {id : Value} {result : Except Failure (Option Entry)} {after : Index}
    (attempt : Attempt entityType id index result after) (key : Key) (inBatch : Bool)
    (unfailed : Unfailed result) :
    ∃ events, after.trail.events = index.trail.events ++ events ∧
      Tells [⟨(entityType, key), inBatch, .of result⟩] events := by
  cases attempt with
  | failed stage cause streams =>
      have unhandled := unfailed _ rfl
      cases unhandled
  | stopped unhandled streams =>
      refine ⟨[], (List.append_nil _).symm, ?_⟩
      rw [Ending.of, if_neg (by simp [unhandled])]
      exact Tells.stopped _ _ _
  | removed deleted streams => exact ⟨_, Trail.events_record _ _, Tells.removed _ _ _ _⟩
  | built isType fresh written streams =>
      exact ⟨_, Trail.events_record _ _, Tells.built (entityType, key) _ _⟩

/-- A rebuild in a batch tells of its failure as well. -/
theorem Attempt.tells_counting {id : Value} {result : Except Failure (Option Entry)}
    {after : Index} (attempt : Attempt entityType id index result after) (key : Key) :
    ∃ events, (counting entityType result after).trail.events = index.trail.events ++ events ∧
      Tells [⟨(entityType, key), true, .of result⟩] events := by
  rcases failed_or_unfailed result with ⟨failure, rfl, isFailure⟩ | unfailed
  · refine ⟨[.note (.staysStale failure), .count .reindexFailures [("entity_type", entityType)] 1],
      ?_, ?_⟩
    · simp only [counting, isFailure, if_true, record, Trail.events_record,
        attempt.trail_of_error rfl, List.append_assoc, List.cons_append, List.nil_append]
    · rw [Ending.of, if_pos isFailure]
      exact Tells.counted_member (entityType, key) failure
  · rw [counting_of_unfailed unfailed]
    exact attempt.tells key true unfailed

theorem events_of_leavesTrail {α : Type} {action : Action Index α} (leaves : LeavesTrail action)
    (index : Index) : (action index).2.trail.events = index.trail.events ++ [] := by
  rw [leaves index, List.append_nil]

theorem Step.tells {log : List Rebuild} {before after : Index}
    (step : Step catalog source before log after) :
    ∃ events, after.trail.events = before.trail.events ++ events ∧ Tells log events := by
  cases step with
  | event event silent => exact ⟨_, Trail.events_record _ _, Tells.silent silent⟩
  | locks locks => exact ⟨[], (List.append_nil _).symm, Tells.nil⟩
  | resolve entityType id relation => exact ⟨[], (List.append_nil _).symm, Tells.nil⟩
  | list entityType scope => exact ⟨[], (List.append_nil _).symm, Tells.nil⟩
  | delete entityType id =>
      exact ⟨[], events_of_leavesTrail (leavesTrail_write _) before, Tells.nil⟩
  | flag entityType id =>
      exact ⟨[], events_of_leavesTrail (leavesTrail_write _) before, Tells.nil⟩
  | alone entityType isKey unfailed => exact (attempt_rebuild ..).tells _ _ unfailed
  | noted entityType isKey failed handled locks tells =>
      refine ⟨_, ?_, Tells.noted _ tells⟩
      rw [record, Trail.events_record]
      dsimp only
      rw [(attempt_rebuild ..).trail_of_error failed]
  | member entityType isKey => exact (attempt_rebuild ..).tells_counting _

/-- A course adds to the trail what it tells of its rebuilds. -/
theorem Course.tells {log : List Rebuild} {before after : Index}
    (course : Course catalog source before log after) :
    ∃ events, after.trail.events = before.trail.events ++ events ∧ Tells log events := by
  induction course with
  | refl index => exact ⟨[], (List.append_nil _).symm, Tells.nil⟩
  | step first _ inductionHypothesis =>
      obtain ⟨events, written, told⟩ := first.tells
      obtain ⟨others, later, toldLater⟩ := inductionHypothesis
      exact ⟨events ++ others, by rw [later, written, List.append_assoc], told.append toldLater⟩

namespace Course

variable {before after : Index} {log : List Rebuild}

/-- The counter of rebuilt entries grows by the number of fresh entries that were written. -/
theorem total_reindexed (course : Course catalog source before log after) (entityType : String) :
    after.trail.total (reindexedOf entityType) =
      before.trail.total (reindexedOf entityType) + log.countP (Rebuild.isBuilt entityType) := by
  obtain ⟨events, written, told⟩ := course.tells
  rw [Trail.total_of_append written, told.reindexed]

/-- The counter of failures grows by the number of rebuilds that failed in a batch. -/
theorem total_failures (course : Course catalog source before log after) (entityType : String) :
    after.trail.total (failuresOf entityType) = before.trail.total (failuresOf entityType) +
      log.countP fun rebuild => rebuild.inBatch && rebuild.isFailed entityType := by
  obtain ⟨events, written, told⟩ := course.tells
  rw [Trail.total_of_append written, told.counted]

/-- Every rebuild that fails is noted, in order. -/
theorem failures (course : Course catalog source before log after) :
    after.trail.failures = before.trail.failures ++ log.filterMap Rebuild.failure? := by
  obtain ⟨events, written, told⟩ := course.tells
  rw [Trail.failures, written, List.filterMap_append, told.failures]
  rfl

end Course

/-! ## What becomes of entries -/

/-- The entry that a step is said to have written is there after it, fresh, under its type. -/
theorem Step.written {log : List Rebuild} {before after : Index}
    (step : Step catalog source before log after) {done : Rebuild} (member : done ∈ log)
    {entry : Entry} (built : done.ending = .built entry) :
    after.store.find? entry.owner = some entry ∧ entry.owner.entityType = done.record.1 ∧
      entry.content.stale = false := by
  cases step with
  | event | locks | resolve | list | delete | flag => cases member
  | alone entityType isKey unfailed =>
      cases List.mem_singleton.1 member
      exact (attempt_rebuild ..).written (Ending.of_eq_built built)
  | noted entityType isKey failed handled locks tells =>
      cases List.mem_singleton.1 member
      cases built
  | member entityType isKey =>
      cases List.mem_singleton.1 member
      rw [store_counting]
      exact (attempt_rebuild ..).written (Ending.of_eq_built built)

theorem record?_of_rebuild {id : Value} {key : Key} (isKey : id.key = .ok key) {failure : Failure}
    (failed : (rebuild catalog source entityType id index).1 = .error failure)
    (handled : isRebuildFailure failure = true) : failure.record? = some (entityType, key) := by
  obtain ⟨stage, cause, rfl⟩ := (attempt_rebuild ..).reindex_of_error failed handled
  rw [Failure.record?, isKey]
  rfl

/-- A failure names the record whose rebuild it ended. -/
theorem Step.named {log : List Rebuild} {before after : Index}
    (step : Step catalog source before log after) {done : Rebuild} (member : done ∈ log)
    {failure : Failure} (failed : done.failure? = some failure) :
    failure.record? = some done.record := by
  cases step with
  | event | locks | resolve | list | delete | flag => cases member
  | alone entityType isKey unfailed =>
      cases List.mem_singleton.1 member
      obtain ⟨ended, isFailure⟩ := Ending.of_eq_failed (Rebuild.failure?_eq_some.1 failed)
      rw [unfailed failure ended] at isFailure
      cases isFailure
  | noted entityType isKey ended handled locks tells =>
      cases List.mem_singleton.1 member
      cases failed
      exact record?_of_rebuild isKey ended handled
  | member entityType isKey =>
      cases List.mem_singleton.1 member
      obtain ⟨ended, isFailure⟩ := Ending.of_eq_failed (Rebuild.failure?_eq_some.1 failed)
      exact record?_of_rebuild isKey ended isFailure

theorem Course.named {log : List Rebuild} {before after : Index}
    (course : Course catalog source before log after) {done : Rebuild} (member : done ∈ log)
    {failure : Failure} (failed : done.failure? = some failure) :
    failure.record? = some done.record := by
  induction course with
  | refl _ => cases member
  | step step _ inductionHypothesis =>
      rcases List.mem_append.1 member with now | later
      · exact step.named now failed
      · exact inductionHypothesis later

/-- An entry that a course is said to have written was there at some time, fresh, under its type. -/
theorem Course.written {log : List Rebuild} {before after : Index}
    (course : Course catalog source before log after) {done : Rebuild} (member : done ∈ log)
    {entry : Entry} (built : done.ending = .built entry) :
    ∃ first rest middle, log = first ++ rest ∧ Course catalog source before first middle ∧
      Course catalog source middle rest after ∧ middle.store.find? entry.owner = some entry ∧
      entry.owner.entityType = done.record.1 ∧ entry.content.stale = false := by
  induction course with
  | refl _ => cases member
  | @step before middle after log more step rest inductionHypothesis =>
      rcases List.mem_append.1 member with now | later
      · exact ⟨log, more, middle, rfl, .single step, rest, step.written now built⟩
      · obtain ⟨first, others, place, same, reached, onward, found⟩ := inductionHypothesis later
        exact ⟨log ++ first, others, place, by rw [same, List.append_assoc], .step step reached,
          onward, found⟩

/-- A fresh entry was there before a step, or the step wrote it. -/
theorem Step.fresh {log : List Rebuild} {before after : Index}
    (step : Step catalog source before log after) {owner : Ref} {entry : Entry}
    (present : after.store.find? owner = some entry) (fresh : entry.content.stale = false) :
    before.store.find? owner = some entry ∨
      ∃ rebuild ∈ log, rebuild.ending = .built entry := by
  cases step with
  | event event silent => exact Or.inl present
  | locks locks => exact Or.inl present
  | resolve entityType id relation => exact Or.inl present
  | list entityType scope => exact Or.inl present
  | delete entityType id =>
      rw [Index.delete, write] at present
      split at present
      · rename_i removed store deleted
        rcases Store.find?_of_delete deleted owner with gone | same
        · exact absurd (gone.symm.trans present) (by simp)
        · exact Or.inl (same.symm.trans present)
      · exact Or.inl present
  | flag entityType id =>
      rw [ensureStale, write] at present
      split at present
      · rename_i given store ensured
        rcases Store.find?_of_ensureStale ensured owner with same | ⟨other, placed, stale⟩
        · exact Or.inl (same.symm.trans present)
        · cases placed.symm.trans present
          simp [fresh] at stale
      · exact Or.inl present
  | alone entityType isKey unfailed =>
      exact ((attempt_rebuild ..).found present).imp_right fun built =>
        ⟨_, List.mem_singleton_self _, by rw [built]; rfl⟩
  | noted entityType isKey failed handled locks tells =>
      refine Or.inl (((attempt_rebuild ..).found present).resolve_right fun built => ?_)
      rw [failed] at built
      cases built
  | member entityType isKey =>
      rw [store_counting] at present
      exact ((attempt_rebuild ..).found present).imp_right fun built =>
        ⟨_, List.mem_singleton_self _, by rw [built]; rfl⟩

/-- A fresh entry was there before a course, or the course wrote it. -/
theorem Course.fresh {log : List Rebuild} {before after : Index}
    (course : Course catalog source before log after) {owner : Ref} {entry : Entry}
    (present : after.store.find? owner = some entry) (fresh : entry.content.stale = false) :
    before.store.find? owner = some entry ∨
      ∃ rebuild ∈ log, rebuild.ending = .built entry := by
  induction course with
  | refl _ => exact Or.inl present
  | step first _ inductionHypothesis =>
      rcases inductionHypothesis present with earlier | ⟨rebuild, member, built⟩
      · rcases first.fresh earlier fresh with earlier | ⟨rebuild, member, built⟩
        · exact Or.inl earlier
        · exact Or.inr ⟨rebuild, List.mem_append_left _ member, built⟩
      · exact Or.inr ⟨rebuild, List.mem_append_right _ member, built⟩

end Index

end ShadowIndex
