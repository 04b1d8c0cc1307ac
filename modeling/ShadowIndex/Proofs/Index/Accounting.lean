import Mathlib.Data.Finset.Card
import ShadowIndex.Proofs.Index.Following

/-!
Contract: how the counters of rebuilds account for the rebuilds of one request.

Owns:
- `Index.Request`, what is asked of an index, and the rebuilds that each request leads to;
- `Index.Accounts`, what a counter of failures has to say of the records that failed;
- `Index.rebuilds_accounted`: entries written are counted one by one, and failures are counted
  in batches only.

Does not own: the rebuilds.
-/

set_option autoImplicit false

namespace ShadowIndex.Index

variable {catalog : Catalog} {source : Source}

/-! ## Requests -/

/-- What is asked of an index. -/
inductive Request where
  | notify (change : Change)
  | search (entityType : String) (text : Option String) (scope : Scope)
  | reindex (entityType : String)
  | rebuild (entityType : String)

namespace Request

/-- The index after a request, whether or not the request failed. -/
def after (catalog : Catalog) (source : Source) (index : Index) : Request → Index
  | notify change => (onChange catalog source change index).2
  | search entityType text scope => (Index.search catalog source entityType text scope index).2
  | reindex entityType => (reindexAll catalog source entityType index).2
  | rebuild entityType => (rebuildAll catalog source entityType index).2

/-- The rebuilds that a request can lead to. -/
def Leads (settings : Settings) : Request → List Rebuild → Prop
  | notify _ => Every (Rebuild.IsEager settings)
  | search entityType _ _ => Served settings entityType
  | reindex entityType | rebuild entityType => Whole entityType

theorem follows (catalog : Catalog) (source : Source) (index : Index) (request : Request) :
    ∃ log, Course catalog source index log (request.after catalog source index) ∧
      request.Leads catalog.settings log := by
  cases request with
  | notify change => exact follows_onChange catalog source change index
  | search entityType text scope => exact follows_search catalog source entityType text scope index
  | reindex entityType => exact follows_reindexAll catalog source entityType index
  | rebuild entityType => exact follows_rebuildAll catalog source entityType index

/-- The records that a batch rebuilds are distinct; only a batch has any. -/
theorem Leads.once {settings : Settings} {request : Request} {log : List Rebuild}
    (leads : request.Leads settings log) :
    ((log.filter Rebuild.inBatch).map Rebuild.record).Nodup := by
  cases request with
  | notify change =>
      have none : log.filter Rebuild.inBatch = [] :=
        List.filter_eq_nil_iff.2 fun done member => by simp [(leads done member).2]
      simp [none]
  | search entityType text scope =>
      have served : Served settings entityType log := leads
      exact served.once
  | reindex entityType | rebuild entityType =>
      have whole : Whole entityType log := leads
      exact whole.once

end Request

/-! ## Counted failures -/

/-- The records of a type whose rebuild failed. -/
def failedRecords (entityType : String) (log : List Rebuild) : Finset (String × Key) :=
  ((log.filter (Rebuild.isFailed entityType)).map Rebuild.record).toFinset

/-- Those whose rebuild failed in a batch. -/
def countedRecords (entityType : String) (log : List Rebuild) : Finset (String × Key) :=
  failedRecords entityType (log.filter Rebuild.inBatch)

/-- What a counter of failures has to say: as many as there are records at least, and none if there
is none. -/
def Accounts (records : Finset (String × Key)) (growth : Nat) : Prop :=
  records.card ≤ growth ∧ (records = ∅ → growth = 0)

theorem countedRecords_subset (entityType : String) (log : List Rebuild) :
    countedRecords entityType log ⊆ failedRecords entityType log := by
  intro record member
  simp only [countedRecords, failedRecords, List.mem_toFinset] at member ⊢
  exact ((List.filter_sublist.filter _).map Rebuild.record).subset member

/-- A batch fails for each record once at most, so that its failures are as many as its records. -/
theorem card_countedRecords {entityType : String} {log : List Rebuild}
    (once : ((log.filter Rebuild.inBatch).map Rebuild.record).Nodup) :
    (countedRecords entityType log).card =
      log.countP fun done => done.inBatch && done.isFailed entityType := by
  rw [countedRecords, failedRecords,
    List.toFinset_card_of_nodup ((List.filter_sublist.map Rebuild.record).nodup once),
    List.length_map, List.filter_filter, List.countP_eq_length_filter]
  simp only [Bool.and_comm]

/-- To count some of the records is enough exactly if these are all of them. -/
theorem accounts_card_iff {counted records : Finset (String × Key)} (within : counted ⊆ records) :
    Accounts records counted.card ↔ records ⊆ counted := by
  constructor
  · rintro ⟨enough, -⟩
    rw [Finset.eq_of_subset_of_card_le within enough]
  · intro all
    rw [Finset.Subset.antisymm within all]
    exact ⟨le_refl _, fun isEmpty => by rw [isEmpty, Finset.card_empty]⟩

/-- What the work of a request tells of its rebuilds, and what it leaves of them: every fresh entry
that it writes is there at some time and is counted, every other one was there before, and every
failure is noted, with its record. -/
structure Accounting (catalog : Catalog) (source : Source) (before : Index) (log : List Rebuild)
    (after : Index) : Prop where
  course : Course catalog source before log after
  written : ∀ done ∈ log, ∀ entry, done.ending = .built entry →
    ∃ first rest middle, log = first ++ rest ∧ Course catalog source before first middle ∧
      Course catalog source middle rest after ∧ middle.store.find? entry.owner = some entry ∧
      entry.owner.entityType = done.record.1 ∧ entry.content.stale = false
  found : ∀ owner entry, after.store.find? owner = some entry → entry.content.stale = false →
    before.store.find? owner = some entry ∨ ∃ done ∈ log, done.ending = .built entry
  counted : ∀ entityType, after.trail.total (reindexedOf entityType) =
    before.trail.total (reindexedOf entityType) + log.countP (Rebuild.isBuilt entityType)
  noted : after.trail.failures = before.trail.failures ++ log.filterMap Rebuild.failure?
  named : ∀ done ∈ log, ∀ failure, done.failure? = some failure →
    failure.record? = some done.record

theorem Course.accounting {before after : Index} {log : List Rebuild}
    (course : Course catalog source before log after) :
    Accounting catalog source before log after where
  course := course
  written _ member _ built := course.written member built
  found _ _ present fresh := course.fresh present fresh
  counted := course.total_reindexed
  noted := course.failures
  named _ member _ failed := course.named member failed

/-- The counters after a request. The counter of rebuilt entries grows by the fresh entries that
the request wrote. That of failures grows by the records for which a batch of the request failed:
this is what it has to say exactly if every record whose rebuild failed did so in a batch, as after
a batch alone. -/
theorem rebuilds_accounted (catalog : Catalog) (source : Source) (index : Index)
    (request : Request) :
    let after := request.after catalog source index
    ∃ log, Accounting catalog source index log after ∧ request.Leads catalog.settings log ∧
      ∀ entityType,
        after.trail.total (failuresOf entityType) =
          index.trail.total (failuresOf entityType) + (countedRecords entityType log).card ∧
        (Accounts (failedRecords entityType log) (countedRecords entityType log).card ↔
          failedRecords entityType log ⊆ countedRecords entityType log) ∧
        ((∀ done ∈ log, done.inBatch = true) →
          Accounts (failedRecords entityType log) (countedRecords entityType log).card) := by
  intro after
  obtain ⟨log, course, leads⟩ := request.follows catalog source index
  refine ⟨log, course.accounting, leads, fun entityType => ?_⟩
  have iff := accounts_card_iff (countedRecords_subset entityType log)
  refine ⟨?_, iff, fun inBatch => iff.2 ?_⟩
  · rw [card_countedRecords leads.once]
    exact course.total_failures entityType
  · rw [countedRecords, List.filter_eq_self.2 inBatch]

/-- Users have a searchable name, and entries are rebuilt right after a change. -/
def eagerUsers : Catalog :=
  ⟨{ eagerReindex := true }, ⟨true, .ofList [("user", ⟨true, .ofList [("name",
    ⟨.extractor (.attributes ["name"]), true⟩)]⟩)]⟩, .empty⟩

/-- There is one user, who cannot be fetched. -/
def userDown : Host where
  records := .ofList [(("user", .int 1), ⟨.int 1, .empty⟩)]
  destroyed := .empty
  relations := .empty
  counters := .empty
  outage := ⟨[("user", .int 1)], [], []⟩

/-- A rebuild right after a change fails, and its failure is noted but not counted. -/
theorem eager_failure_uncounted :
    let after := (Request.notify ⟨.create, "user", .int 1⟩).after eagerUsers userDown default
    ∃ log, Course eagerUsers userDown default log after ∧
      ("user", Key.int 1) ∈ failedRecords "user" log ∧
      after.trail.total (failuresOf "user") = (default : Index).trail.total (failuresOf "user") ∧
      ¬ Accounts (failedRecords "user" log)
        (after.trail.total (failuresOf "user") -
          (default : Index).trail.total (failuresOf "user")) := by
  intro after
  obtain ⟨log, course, -⟩ := follows_onChange eagerUsers userDown ⟨.create, "user", .int 1⟩ default
  have noted : after.trail.failures.map Failure.record? = [some ("user", .int 1)] := by
    decide +kernel
  have uncounted : after.trail.total (failuresOf "user") = 0 := by decide +kernel
  have logged : log.filterMap Rebuild.failure? = after.trail.failures := course.failures.symm
  rw [← logged] at noted
  obtain ⟨failure, told, isNamed⟩ := List.mem_map.1 (noted ▸ List.mem_singleton_self _)
  obtain ⟨done, member, failed⟩ := List.mem_filterMap.1 told
  have isRecord : done.record = ("user", .int 1) :=
    Option.some.inj ((course.named member failed).symm.trans isNamed)
  have listed : ("user", Key.int 1) ∈ failedRecords "user" log := by
    rw [failedRecords, List.mem_toFinset]
    refine List.mem_map.2 ⟨done, List.mem_filter.2 ⟨member, ?_⟩, isRecord⟩
    simp [Rebuild.isFailed, failed, isRecord]
  refine ⟨log, course, listed, uncounted, fun accounts => ?_⟩
  have few := accounts.1
  rw [uncounted, Nat.zero_sub, Nat.le_zero, Finset.card_eq_zero] at few
  simp [few] at listed

end ShadowIndex.Index
