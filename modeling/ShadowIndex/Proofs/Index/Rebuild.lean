import ShadowIndex.Index.Change
import ShadowIndex.Proofs.Index.Live
import ShadowIndex.Proofs.Index.Runs
import ShadowIndex.Proofs.Store.Lookup

/-!
Contract: what a rebuild of one record does to its entry, and to no other.

Owns:
- the outcome and the entry after each step on one record: look-up, removal, flagging, rebuild;
- `Index.afterRebuild`, the entry that a rebuild leaves, and `Index.refreshed`, what a batch leaves,
  with `Index.memberOutcome`, the outcome for a member of a batch.

Does not own: batches, or what makes entries stale.
-/

set_option autoImplicit false

namespace ShadowIndex.Index

/-- What a rebuild leaves of the entry that was held: what was built, or all of it. -/
def afterRebuild (outcome : Except Failure (Option Entry)) (held : Option Entry) :
    Option Entry :=
  match outcome with
  | .ok rebuilt? => rebuilt?
  | .error _ => held

/-- What a batch leaves of an entry: a stale one is rebuilt. -/
def refreshed (outcome : Except Failure (Option Entry)) (held : Option Entry) : Option Entry :=
  if held.any fun entry => entry.content.stale then afterRebuild outcome held else held

variable {catalog : Catalog} {source : Source} {entityType : String} {id : Id}
variable {before after : Store}

/-! ## Single steps -/

theorem entry_inv (opened : before.requireOpen = .ok ()) (accepts : before.Accepts id)
    {outcome : Except Failure (Option Entry)}
    (runs : Runs (entry entityType id.value) before outcome after) :
    outcome = .ok (before.find? ⟨entityType, id⟩) ∧ after = before := by
  have looked := Runs.query_inv runs
  rwa [Store.get_value opened entityType accepts] at looked

theorem delete_inv (opened : before.requireOpen = .ok ()) (accepts : before.Accepts id)
    {outcome : Except Failure Bool}
    (runs : Runs (delete entityType id.value) before outcome after) :
    outcome = .ok (before.find? ⟨entityType, id⟩).isSome ∧
      before.Places ⟨entityType, id⟩ none after := by
  obtain ⟨store, done, placed⟩ := Store.delete_eq_ok opened entityType accepts
  obtain ⟨rfl, rfl⟩ := Runs.write_ok_inv done runs
  exact ⟨rfl, placed⟩

theorem markStale_inv (opened : before.requireOpen = .ok ()) (accepts : before.Accepts id)
    {outcome : Except Failure Bool}
    (runs : Runs (markStale entityType id.value) before outcome after) :
    outcome = .ok (before.find? ⟨entityType, id⟩).isSome ∧
      before.Places ⟨entityType, id⟩ ((before.find? ⟨entityType, id⟩).map Entry.asStale) after := by
  obtain ⟨store, done, placed⟩ := Store.markStale_eq_ok opened entityType accepts
  obtain ⟨rfl, rfl⟩ := Runs.write_ok_inv done runs
  exact ⟨rfl, placed⟩

theorem ensureStale_inv (opened : before.requireOpen = .ok ())
    (possible : entityType ≠ "" ∨ (before.find? ⟨entityType, id⟩).isSome)
    (accepts : before.Accepts id) {outcome : Except Failure Entry}
    (runs : Runs (ensureStale entityType id.value) before outcome after) :
    outcome = .ok (before.staleEntry ⟨entityType, id⟩) ∧
      before.Places ⟨entityType, id⟩ (some (before.staleEntry ⟨entityType, id⟩)) after := by
  obtain ⟨store, done, placed⟩ := Store.ensureStale_eq_ok opened possible accepts
  obtain ⟨rfl, rfl⟩ := Runs.write_ok_inv done runs
  exact ⟨rfl, placed⟩

/-- An entry is ensured, or a type without a name keeps it from being made. -/
theorem ensureStale_cases (opened : before.requireOpen = .ok ()) (accepts : before.Accepts id)
    {outcome : Except Failure Entry}
    (runs : Runs (ensureStale entityType id.value) before outcome after) :
    outcome = .ok (before.staleEntry ⟨entityType, id⟩) ∧
        before.Places ⟨entityType, id⟩ (some (before.staleEntry ⟨entityType, id⟩)) after ∨
      entityType = "" ∧ after = before := by
  by_cases possible : entityType ≠ "" ∨ (before.find? ⟨entityType, id⟩).isSome
  · exact Or.inl (ensureStale_inv opened possible accepts runs)
  · obtain ⟨unnamed, absent⟩ := not_or.1 possible
    obtain rfl : entityType = "" := not_not.1 unnamed
    obtain ⟨issues, unnameable⟩ := Store.placeholder_unnamed id
    have refused := Store.ensureStale_eq_error opened accepts (by simpa using absent) unnameable
    rcases Runs.write_inv runs with ⟨value, written, -⟩ | ⟨other, -, -, rfl⟩
    · rw [refused] at written
      cases written
    · exact Or.inr ⟨rfl, rfl⟩

theorem upsert_inv (opened : before.requireOpen = .ok ()) {entry : Entry}
    (accepts : before.Accepts entry.owner.id) {outcome : Except Failure Unit}
    (runs : Runs (upsert entry) before outcome after) :
    outcome = .ok () ∧ before.Places entry.owner (some entry) after := by
  obtain ⟨store, written, placed⟩ := Store.upsert_eq_ok opened accepts
  have done : (before.upsert entry).map (fun store => ((), store)) = .ok ((), store) := by
    rw [written]
    rfl
  obtain ⟨rfl, rfl⟩ := Runs.write_ok_inv done runs
  exact ⟨rfl, placed⟩

/-! ## Rebuilds -/

/-- A rebuild gives the outcome of a build, and writes it unless it is a failure. -/
theorem rebuild_inv (opened : before.requireOpen = .ok ()) (accepts : before.Accepts id)
    {outcome : Except Failure (Option Entry)}
    (runs : Runs (rebuild catalog source entityType id.value) before outcome after) :
    (∃ streams, outcome = (catalog.liveEntry source entityType id.value streams).1) ∧
      before.Places ⟨entityType, id⟩
        (afterRebuild outcome (before.find? ⟨entityType, id⟩)) after := by
  rcases runs.bind_inv with ⟨rebuilt?, middle, read, rest⟩ | ⟨failure, rfl, read⟩
  · obtain ⟨⟨streams, built⟩, rfl⟩ := read.reading_inv
    cases rebuilt? with
    | none =>
        rcases rest.bind_inv with ⟨removed, last, deleted, finish⟩ | ⟨failure, -, deleted⟩
        · obtain ⟨-, placed⟩ := delete_inv opened accepts deleted
          obtain ⟨rfl, rfl⟩ := (finish.bind_quiet_inv Runs.note_inv).pure_inv
          exact ⟨⟨streams, built⟩, placed⟩
        · exact absurd (delete_inv opened accepts deleted).1 (by simp)
    | some entry =>
        have builds : catalog.Builds source ⟨entityType, id⟩ entry := ⟨streams, built.symm⟩
        have isOwner := builds.owner_eq
        have acceptsOwner : middle.Accepts entry.owner.id := by
          rw [isOwner]
          exact accepts
        rcases rest.bind_inv with ⟨done, last, written, finish⟩ | ⟨failure, -, written⟩
        · obtain ⟨-, placed⟩ := upsert_inv opened acceptsOwner written
          obtain ⟨rfl, rfl⟩ := (finish.bind_quiet_inv Runs.count_inv).pure_inv
          rw [isOwner] at placed
          exact ⟨⟨streams, built⟩, placed⟩
        · exact absurd (upsert_inv opened acceptsOwner written).1 (by simp)
  · obtain ⟨⟨streams, built⟩, rfl⟩ := read.reading_inv
    exact ⟨⟨streams, built⟩, Store.places_of_unchanged rfl⟩

theorem reindexOne_inv (opened : before.requireOpen = .ok ()) (accepts : before.Accepts id)
    {outcome : Except Failure (Option Entry)}
    (runs : Runs (reindexOne catalog source entityType id.value) before outcome after) :
    (∃ streams, outcome = (catalog.liveEntry source entityType id.value streams).1) ∧
      before.Places ⟨entityType, id⟩
        (afterRebuild outcome (before.find? ⟨entityType, id⟩)) after := by
  rcases runs.bind_inv with ⟨rebuilt?, middle, held, rest⟩ | ⟨failure, rfl, held⟩
  · have rebuilt := rebuild_inv opened accepts held.holding_inv
    split at rest
    · obtain ⟨rfl, rfl⟩ := (rest.bind_quiet_inv Runs.discardLock_inv).pure_inv
      exact rebuilt
    · obtain ⟨rfl, rfl⟩ := rest.pure_inv
      exact rebuilt
  · exact rebuild_inv opened accepts held.holding_inv

/-- A build right after a change. Its failure fails the change only if it ends the program. -/
theorem eagerBuild_inv (opened : before.requireOpen = .ok ()) (accepts : before.Accepts id)
    {outcome : Except Failure Unit}
    (runs : Runs (do
      match ← (reindexOne catalog source entityType id.value).attempt with
      | .ok _ => return ()
      | .error failure =>
          if isRebuildFailure failure then note (.eagerFailed failure)
          else Action.fail failure) before outcome after) :
    ∃ result, (∃ streams, result = (catalog.liveEntry source entityType id.value streams).1) ∧
      before.Places ⟨entityType, id⟩
        (afterRebuild result (before.find? ⟨entityType, id⟩)) after ∧
      (outcome = .ok () ∨
        ∃ failure, outcome = .error failure ∧ result = .error failure ∧
          failure.isEnding = true) := by
  rcases runs.bind_inv with ⟨result, middle, tried, finish⟩ | ⟨failure, -, tried⟩
  · obtain ⟨inner, same, attempted⟩ := tried.attempt_inv
    cases same
    obtain ⟨built, placed⟩ := reindexOne_inv opened accepts attempted
    refine ⟨result, built, ?_⟩
    cases result with
    | ok rebuilt? =>
        obtain ⟨rfl, rfl⟩ := finish.pure_inv
        exact ⟨placed, Or.inl rfl⟩
    | error failure =>
        by_cases handled : isRebuildFailure failure = true
        · simp only [handled, if_true] at finish
          obtain ⟨rfl, rfl⟩ := finish.note_inv
          exact ⟨placed, Or.inl rfl⟩
        · simp only [handled, Bool.false_eq_true, if_false] at finish
          obtain ⟨rfl, rfl⟩ := finish.fail_inv
          obtain ⟨streams, failed⟩ := built
          exact ⟨placed, Or.inr ⟨failure, rfl, rfl,
            Catalog.isEnding_of_liveEntry failed.symm (by simpa using handled)⟩⟩
  · obtain ⟨inner, impossible, -⟩ := tried.attempt_inv
    cases impossible

/-! ## Members of a batch -/

/-- What became of an entry in a batch. -/
def outcomeOf (result : Except Failure (Option Entry)) (held : Option Entry) : Outcome :=
  if held.any fun entry => entry.content.stale then
    match result with
    | .ok (some _) => .rebuilt
    | .ok none => .removed
    | .error _ => .failed
  else .skipped

/-- The outcome for a member of a batch: a stale one that fails in a way that no batch handles ends
the batch. -/
def memberOutcome (result : Except Failure (Option Entry)) (held : Option Entry) :
    Except Failure Outcome :=
  match result with
  | .ok rebuilt? => .ok (outcomeOf (.ok rebuilt?) held)
  | .error failure =>
      if (held.any fun entry => entry.content.stale) && !isRebuildFailure failure then
        .error failure
      else .ok (outcomeOf (.error failure) held)

theorem memberOutcome_cases (result : Except Failure (Option Entry)) (held : Option Entry) :
    memberOutcome result held = .ok (outcomeOf result held) ∧
        (∀ failure, result = .error failure →
          held.any (fun entry => entry.content.stale) = true → isRebuildFailure failure = true) ∨
      ∃ failure, memberOutcome result held = .error failure ∧ result = .error failure ∧
        isRebuildFailure failure = false := by
  cases result with
  | ok rebuilt? => exact Or.inl ⟨rfl, nofun⟩
  | error failure =>
      by_cases ends : ((held.any fun entry => entry.content.stale) && !isRebuildFailure failure) = true
      · have unhandled : isRebuildFailure failure = false := by simp at ends; exact ends.2
        exact Or.inr ⟨failure, by simp only [memberOutcome, ends, if_true], rfl, unhandled⟩
      · refine Or.inl ⟨by simp only [memberOutcome, ends, Bool.false_eq_true, if_false], ?_⟩
        rintro _ ⟨⟩ stale
        simpa [stale] using ends

theorem memberOutcome_of_not_stale {held : Option Entry}
    (settled : held.any (fun entry => entry.content.stale) = false)
    (result : Except Failure (Option Entry)) : memberOutcome result held = .ok .skipped := by
  cases result <;> simp [memberOutcome, outcomeOf, settled]

theorem refreshed_of_stale {entry : Entry} (stale : entry.content.stale = true)
    (result : Except Failure (Option Entry)) :
    refreshed result (some entry) = afterRebuild result (some entry) := by
  simp [refreshed, stale]

theorem refreshed_of_not_stale {held : Option Entry}
    (settled : held.any (fun entry => entry.content.stale) = false)
    (result : Except Failure (Option Entry)) : refreshed result held = held := by
  simp [refreshed, settled]

/-- A rebuild that a batch attempts. -/
theorem attempted_inv {current : Entry} (stale : current.content.stale = true)
    (opened : before.requireOpen = .ok ()) (accepts : before.Accepts id)
    (held : before.find? ⟨entityType, id⟩ = some current) {outcome : Except Failure Outcome}
    (runs : Runs (do
      match ← (rebuild catalog source entityType id.value).attempt with
      | .ok (some _) => return .rebuilt
      | .ok none => return .removed
      | .error failure =>
          if isRebuildFailure failure then
            note (.staysStale failure)
            count .reindexFailures [("entity_type", entityType)] 1
            return .failed
          else Action.fail failure) before outcome after) :
    ∃ result, (∃ streams, result = (catalog.liveEntry source entityType id.value streams).1) ∧
      before.Places ⟨entityType, id⟩ (refreshed result (some current)) after ∧
      outcome = memberOutcome result (some current) := by
  rcases runs.bind_inv with ⟨result, last, tried, finish⟩ | ⟨failure, -, tried⟩
  · obtain ⟨inner, same, attempted⟩ := tried.attempt_inv
    cases same
    obtain ⟨built, placed⟩ := rebuild_inv opened accepts attempted
    rw [held, ← refreshed_of_stale stale] at placed
    refine ⟨result, built, ?_⟩
    match result, finish with
    | .ok (some entry), finish =>
        obtain ⟨rfl, rfl⟩ := finish.pure_inv
        exact ⟨placed, by simp [memberOutcome, outcomeOf, stale]⟩
    | .ok none, finish =>
        obtain ⟨rfl, rfl⟩ := finish.pure_inv
        exact ⟨placed, by simp [memberOutcome, outcomeOf, stale]⟩
    | .error failure, finish =>
        by_cases handled : isRebuildFailure failure = true
        · simp only [handled, if_true] at finish
          obtain ⟨rfl, rfl⟩ :=
            ((finish.bind_quiet_inv Runs.note_inv).bind_quiet_inv Runs.count_inv).pure_inv
          exact ⟨placed, by simp [memberOutcome, outcomeOf, stale, handled]⟩
        · simp only [handled, Bool.false_eq_true, if_false] at finish
          obtain ⟨rfl, rfl⟩ := finish.fail_inv
          exact ⟨placed, by simp [memberOutcome, stale, handled]⟩
  · obtain ⟨inner, same, -⟩ := tried.attempt_inv
    cases same

/-- A member of a batch is rebuilt if it is stale. -/
theorem refreshHeld_inv (opened : before.requireOpen = .ok ()) (accepts : before.Accepts id)
    {outcome : Except Failure Outcome}
    (runs : Runs (refreshHeld catalog source entityType id) before outcome after) :
    ∃ result, (∃ streams, result = (catalog.liveEntry source entityType id.value streams).1) ∧
      before.Places ⟨entityType, id⟩ (refreshed result (before.find? ⟨entityType, id⟩)) after ∧
      outcome = memberOutcome result (before.find? ⟨entityType, id⟩) := by
  rcases runs.bind_inv with ⟨held?, middle, looked, rest⟩ | ⟨failure, -, looked⟩
  · obtain ⟨same, rfl⟩ := entry_inv opened accepts looked
    cases same
    cases held : middle.find? ⟨entityType, id⟩ with
    | none =>
        rw [held] at rest
        obtain ⟨rfl, rfl⟩ := rest.pure_inv
        refine ⟨_, ⟨.none, rfl⟩, Store.places_of_unchanged ?_,
          (memberOutcome_of_not_stale (by simp) _).symm⟩
        rw [refreshed_of_not_stale (by simp), held]
    | some current =>
        rw [held] at rest
        by_cases stale : current.content.stale = true
        · simp only [stale, Bool.not_true, Bool.false_eq_true, if_false] at rest
          exact attempted_inv stale opened accepts held rest
        · have fresh : current.content.stale = false := by simpa using stale
          simp only [fresh, Bool.not_false, if_true] at rest
          obtain ⟨rfl, rfl⟩ := rest.pure_inv
          refine ⟨_, ⟨.none, rfl⟩, Store.places_of_unchanged ?_,
            (memberOutcome_of_not_stale (by simp [fresh]) _).symm⟩
          rw [refreshed_of_not_stale (by simp [fresh]), held]
  · exact absurd (entry_inv opened accepts looked).1 (by simp)

theorem refresh_inv (opened : before.requireOpen = .ok ()) (accepts : before.Accepts id)
    {outcome : Except Failure (Id × Outcome)}
    (runs : Runs (refresh catalog source entityType id) before outcome after) :
    ∃ result, (∃ streams, result = (catalog.liveEntry source entityType id.value streams).1) ∧
      before.Places ⟨entityType, id⟩ (refreshed result (before.find? ⟨entityType, id⟩)) after ∧
      outcome = (memberOutcome result (before.find? ⟨entityType, id⟩)).map fun what => (id, what) := by
  rcases runs.bind_inv with ⟨what, middle, held, rest⟩ | ⟨failure, rfl, held⟩
  · obtain ⟨result, built, placed, known⟩ := refreshHeld_inv opened accepts held.holding_inv
    have finished : outcome = .ok (id, what) ∧ after = middle := by
      split at rest
      · exact (rest.bind_quiet_inv Runs.discardLock_inv).pure_inv
      · exact rest.pure_inv
    obtain ⟨rfl, rfl⟩ := finished
    exact ⟨result, built, placed, by rw [← known]; rfl⟩
  · obtain ⟨result, built, placed, known⟩ := refreshHeld_inv opened accepts held.holding_inv
    exact ⟨result, built, placed, by rw [← known]; rfl⟩

end ShadowIndex.Index
