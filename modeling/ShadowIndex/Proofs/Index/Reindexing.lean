import ShadowIndex.Proofs.Index.Members

/-!
Contract: what a batch reports of the stale entries of its type, and what it leaves of the store.

Owns:
- what is stale after a batch, and what another one does of it;
- `Index.Reindexes`: every stale entry is reported once, as rebuilt, removed or failed, and the
  entries are left as reported (`Index.reindexAll_settles`); a second batch reports the same failures
  and changes nothing.

Does not own: what makes entries stale.
-/

set_option autoImplicit false

namespace ShadowIndex.Index

variable {catalog : Catalog} {host : Host} {entityType : String} {before after : Store}
  {listing : List Entry}

/-! ## A second batch -/

/-- What is stale after a batch are the entries that failed. -/
theorem staleIds_left (catalog : Catalog) (host : Host) (entityType : String)
    (listing : List Entry) :
    Listing.staleIds entityType (listing.filterMap (left catalog host entityType)) =
      (Listing.staleIds entityType listing).filter fun id =>
        decide (verdict (catalog.live host ⟨entityType, id⟩) = .failed) := by
  -- By the cases of the first entry: what is built is fresh, what failed is stale as before, and what
  -- no batch tends stays out of both lists.
  induction listing with
  | nil => rfl
  | cons entry rest inductionHypothesis =>
      rw [Listing.staleIds_cons]
      by_cases tended : entry.owner.entityType = entityType ∧ entry.content.stale = true
      · obtain ⟨isType, stale⟩ := tended
        have isOwner : entry.owner = ⟨entityType, entry.owner.id⟩ := by rw [← isType]
        have leaves : left catalog host entityType entry =
            afterRebuild (catalog.live host entry.owner) (some entry) := by
          rw [left, if_pos isType, refreshed_of_stale stale]
        rw [if_pos ⟨isType, stale⟩, List.filter_cons, ← isOwner]
        cases built : catalog.live host entry.owner with
        | error failure =>
            rw [built] at leaves
            rw [List.filterMap_cons_some leaves, Listing.staleIds_cons, if_pos ⟨isType, stale⟩,
              inductionHypothesis]
            simp [verdict]
        | ok rebuilt? =>
            rw [built] at leaves
            cases rebuilt? with
            | none =>
                rw [List.filterMap_cons_none leaves, inductionHypothesis]
                simp [verdict]
            | some fresh =>
                rw [List.filterMap_cons_some leaves, Listing.staleIds_cons, if_neg ?_,
                  inductionHypothesis]
                · simp [verdict]
                · simp [fresh_of_live built]
      · have leaves : left catalog host entityType entry = some entry := by
          rw [left]
          split
          · rename_i isType
            exact refreshed_of_not_stale (by simpa [isType] using tended) _
          · rfl
        rw [List.filterMap_cons_some leaves, Listing.staleIds_cons, if_neg tended, if_neg tended,
          inductionHypothesis]

theorem batchReport_left (catalog : Catalog) (host : Host) (entityType : String)
    (listing : List Entry) :
    batchReport catalog host entityType (listing.filterMap (left catalog host entityType)) =
      ⟨entityType, [], [], (batchReport catalog host entityType listing).failed⟩ := by
  have never {what : Outcome} (other : what ≠ .failed) (ids : List Id) :
      (ids.filter fun id => decide (verdict (catalog.live host ⟨entityType, id⟩) = what) &&
        decide (verdict (catalog.live host ⟨entityType, id⟩) = .failed)) = [] := by
    refine List.filter_eq_nil_iff.2 fun id _ => ?_
    simp only [Bool.and_eq_true, decide_eq_true_eq, not_and]
    rintro rfl
    exact other
  simp only [batchReport, reportOf, withOutcome_map, staleIds_left, List.filter_filter,
    Bool.and_self, never (by decide : Outcome.rebuilt ≠ .failed),
    never (by decide : Outcome.removed ≠ .failed)]

/-- A record that cannot be built is left as it is, and so is the store. -/
theorem rebuild_quiet_inv (steady : catalog.IsSteady host entityType) {id : Id}
    (failing : ∃ failure, catalog.live host ⟨entityType, id⟩ = .error failure)
    {outcome : Except Failure (Option Entry)}
    (runs : Runs (rebuild catalog host entityType id.value) before outcome after) :
    after = before := by
  rcases runs.bind_inv with ⟨rebuilt?, middle, read, -⟩ | ⟨failure, -, read⟩
  · obtain ⟨⟨streams, built⟩, -⟩ := read.reading_inv
    obtain ⟨failure, fails⟩ := failing
    rw [Catalog.liveEntry_eq_live steady, fails] at built
    cases built
  · exact read.reading_inv.2

theorem refreshHeld_quiet_inv (steady : catalog.IsSteady host entityType) {id : Id}
    (failing : ∃ failure, catalog.live host ⟨entityType, id⟩ = .error failure)
    {outcome : Except Failure Outcome}
    (runs : Runs (refreshHeld catalog host entityType id) before outcome after) :
    after = before := by
  rcases runs.bind_inv with ⟨held?, middle, looked, rest⟩ | ⟨failure, -, looked⟩
  · obtain ⟨-, rfl⟩ := Runs.query_inv looked
    split at rest
    · exact rest.pure_inv.2
    · split at rest
      · exact rest.pure_inv.2
      · rcases rest.bind_inv with ⟨tried, last, attempted, finish⟩ | ⟨failure, -, attempted⟩
        · obtain ⟨inner, -, rebuilt⟩ := attempted.attempt_inv
          obtain rfl := rebuild_quiet_inv steady failing rebuilt
          split at finish
          · exact finish.pure_inv.2
          · exact finish.pure_inv.2
          · split at finish
            · exact ((finish.bind_quiet_inv Runs.note_inv).bind_quiet_inv
                Runs.count_inv).pure_inv.2
            · exact finish.fail_inv.2
        · obtain ⟨inner, -, rebuilt⟩ := attempted.attempt_inv
          exact rebuild_quiet_inv steady failing rebuilt
  · exact (Runs.query_inv looked).2

theorem refresh_quiet_inv (steady : catalog.IsSteady host entityType) {id : Id}
    (failing : ∃ failure, catalog.live host ⟨entityType, id⟩ = .error failure)
    {outcome : Except Failure (Id × Outcome)}
    (runs : Runs (refresh catalog host entityType id) before outcome after) : after = before := by
  rcases runs.bind_inv with ⟨what, middle, held, rest⟩ | ⟨failure, -, held⟩
  · obtain rfl := refreshHeld_quiet_inv steady failing held.holding_inv
    split at rest
    · exact (rest.bind_quiet_inv Runs.discardLock_inv).pure_inv.2
    · exact rest.pure_inv.2
  · exact refreshHeld_quiet_inv steady failing held.holding_inv

/-! ## Batches as reported -/

/-- What a batch reports and leaves, said of the stale entries of its type before it. -/
structure Reindexes (catalog : Catalog) (host : Host) (entityType : String) (before : Store)
    (report : Report) (after : Store) : Prop where
  named : report.entityType = entityType
  /-- Every stale entry is reported once, and no other is. -/
  distinct : (Listing.staleIds entityType before.entries).Nodup
  whole : (report.reindexed ++ report.removed ++ report.failed).Perm
    (Listing.staleIds entityType before.entries)
  reindexedInOrder : report.reindexed.Sublist (Listing.staleIds entityType before.entries)
  removedInOrder : report.removed.Sublist (Listing.staleIds entityType before.entries)
  failedInOrder : report.failed.Sublist (Listing.staleIds entityType before.entries)
  mem_reindexed_iff : ∀ id, id ∈ report.reindexed ↔
    id ∈ Listing.staleIds entityType before.entries ∧
      ∃ texts, catalog.Gives host ⟨entityType, id⟩ texts
  mem_removed_iff : ∀ id, id ∈ report.removed ↔
    id ∈ Listing.staleIds entityType before.entries ∧ host.fetch entityType id.value = .ok none
  mem_failed_iff : ∀ id, id ∈ report.failed ↔
    id ∈ Listing.staleIds entityType before.entries ∧ catalog.Raises host ⟨entityType, id⟩
  /-- The owners keep their order, and only removed ones are gone. -/
  places : Listing.owners after.entries = (Listing.owners before.entries).filter fun owner =>
    !(decide (owner.entityType = entityType) && decide (owner.id ∈ report.removed))
  fresh : ∀ id ∈ report.reindexed, ∃ texts, catalog.Gives host ⟨entityType, id⟩ texts ∧
    after.find? ⟨entityType, id⟩ = some ⟨⟨entityType, id⟩, .ofTexts texts⟩
  gone : ∀ id ∈ report.removed, after.find? ⟨entityType, id⟩ = none
  /-- Entries that failed, and all others, are as they were. -/
  kept : ∀ owner, ¬ (owner.entityType = entityType ∧
      (owner.id ∈ report.reindexed ∨ owner.id ∈ report.removed)) →
    after.find? owner = before.find? owner

section Steady

variable (steady : catalog.IsSteady host entityType)
include steady

theorem rebuilt_iff_gives (id : Id) :
    verdict (catalog.live host ⟨entityType, id⟩) = .rebuilt ↔
      ∃ texts, catalog.Gives host ⟨entityType, id⟩ texts := by
  rw [verdict_eq_rebuilt_iff]
  constructor
  · rintro ⟨entry, built⟩
    have builds : catalog.Builds host ⟨entityType, id⟩ entry := ⟨.none, built⟩
    obtain ⟨texts, rfl⟩ := builds.eq_ofTexts
    exact ⟨texts, (Catalog.live_eq_some_iff steady texts).1 built⟩
  · rintro ⟨texts, gives⟩
    exact ⟨_, (Catalog.live_eq_some_iff steady texts).2 gives⟩

theorem failed_iff_raises (id : Id) :
    verdict (catalog.live host ⟨entityType, id⟩) = .failed ↔
      catalog.Raises host ⟨entityType, id⟩ := by
  rw [verdict_eq_failed_iff]
  exact Catalog.live_eq_error_iff steady

/-- A store that holds what a batch leaves is as the batch reports. -/
theorem reindexes_of_lists (lists : before.Lists listing)
    (leaves : after.Lists (listing.filterMap (left catalog host entityType))) :
    Reindexes catalog host entityType before (batchReport catalog host entityType listing)
      after := by
  obtain rfl := lists.entries
  have nodup := lists.owners_nodup
  have found (owner : Ref) : after.find? owner =
      if owner.entityType = entityType ∧
          (before.find? owner).any (fun entry => entry.content.stale) = true then
        afterRebuild (catalog.live host owner) (before.find? owner)
      else before.find? owner := by
    rw [leaves.find?_eq, find?_left nodup, lists.find?_eq]
  have isReindexed (id : Id) :
      id ∈ (batchReport catalog host entityType before.entries).reindexed ↔ _ := mem_part_iff
  have isRemoved (id : Id) :
      id ∈ (batchReport catalog host entityType before.entries).removed ↔ _ := mem_part_iff
  have isFailed (id : Id) :
      id ∈ (batchReport catalog host entityType before.entries).failed ↔ _ := mem_part_iff
  refine
    { named := rfl
      distinct := Listing.nodup_staleIds nodup
      whole := ?whole
      reindexedInOrder := part_sublist _ _ _
      removedInOrder := part_sublist _ _ _
      failedInOrder := part_sublist _ _ _
      mem_reindexed_iff := fun id => by rw [isReindexed, rebuilt_iff_gives steady]
      mem_removed_iff := fun id => by
        rw [isRemoved, verdict_eq_removed_iff, Catalog.live_eq_none_iff]
      mem_failed_iff := fun id => by rw [isFailed, failed_iff_raises steady]
      places := ?places
      fresh := ?fresh
      gone := ?gone
      kept := ?kept }
  case whole =>
    simp only [batchReport, reportOf, withOutcome_map]
    exact parts_perm (fun id => verdict_cases _) _
  case places =>
    rw [leaves.entries]
    refine owners_left _ fun entry member => ?_
    rw [Bool.eq_iff_iff, Option.isSome_iff_ne_none, Ne, left_eq_none_iff]
    by_cases isType : entry.owner.entityType = entityType
    · have isOwner : (⟨entityType, entry.owner.id⟩ : Ref) = entry.owner := by rw [← isType]
      simp [isType, isRemoved, verdict_eq_removed_iff, Listing.mem_staleIds_iff nodup, isOwner,
        Listing.find?_of_mem nodup member]
    · simp [isType]
  case fresh =>
    intro id member
    obtain ⟨listed, rebuilt⟩ := (isReindexed id).1 member
    obtain ⟨texts, gives⟩ := (rebuilt_iff_gives steady id).1 rebuilt
    refine ⟨texts, gives, ?_⟩
    rw [found, if_pos ⟨rfl, lists.mem_staleIds_iff.1 listed⟩, (Catalog.live_eq_some_iff steady texts).2 gives]
    rfl
  case gone =>
    intro id member
    obtain ⟨listed, removed⟩ := (isRemoved id).1 member
    rw [found, if_pos ⟨rfl, lists.mem_staleIds_iff.1 listed⟩, verdict_eq_removed_iff.1 removed]
    rfl
  case kept =>
    -- A stale entry of the type that is neither rebuilt nor removed failed, and a failure keeps it.
    rintro ⟨ownerType, id⟩ spared
    rw [found]
    split
    · rename_i tended
      obtain ⟨rfl, stale⟩ := tended
      have listed := lists.mem_staleIds_iff.2 stale
      rcases verdict_cases (catalog.live host ⟨ownerType, id⟩) with rebuilt | removed | failed
      · exact absurd ⟨rfl, Or.inl ((isReindexed id).2 ⟨listed, rebuilt⟩)⟩ spared
      · exact absurd ⟨rfl, Or.inr ((isRemoved id).2 ⟨listed, removed⟩)⟩ spared
      · obtain ⟨failure, fails⟩ := verdict_eq_failed_iff.1 failed
        rw [fails]
        rfl
    · rfl

/-- A batch of which every stale entry fails changes nothing. -/
theorem reindexAll_quiet_inv (lists : before.Lists listing) (opened : before.requireOpen = .ok ())
    (failing : ∀ id ∈ Listing.staleIds entityType listing,
      ∃ failure, catalog.live host ⟨entityType, id⟩ = .error failure)
    {outcome : Except Failure Report}
    (runs : Runs (reindexAll catalog host entityType) before outcome after) : after = before := by
  obtain ⟨members, ran, -⟩ := refreshAll_members_inv (lists.allStaleFor_eq opened entityType)
    (refreshAll_of_reindexAll runs)
  exact ran.each_quiet_inv fun id member {_ _ _} step =>
    refresh_quiet_inv steady (failing id member) step

end Steady

/-- What a batch right after another reports: the same failures, and nothing else. -/
def reportAgain (report : Report) : Report := { report with reindexed := [], removed := [] }

theorem isNoop_reportAgain_iff (report : Report) :
    (reportAgain report).isNoop = true ↔ report.failed = [] := by
  simp [reportAgain, Report.isNoop]

/-- Unless a build ends the program, a batch reports each stale entry of its type once and leaves the
entries as reported. Another one right after it reports the same failures, and changes nothing. -/
theorem reindexAll_settles (steady : catalog.IsSteady host entityType) (index : Index)
    (ordered : index.store.IsOrdered)
    (serves : index.store.Serves fun id => (index.store.find? ⟨entityType, id⟩).isSome) :
    let first := reindexAll catalog host entityType index
    let second := reindexAll catalog host entityType first.2
    let stale := Listing.staleIds entityType index.store.entries
    (∃ failure, first.1 = .error failure ∧ EndsOne catalog host entityType stale failure) ∨
      (∀ failure, ¬ EndsOne catalog host entityType stale failure) ∧
        ∃ report, first.1 = .ok report ∧
          Reindexes catalog host entityType index.store report first.2.store ∧
          second.1 = .ok (reportAgain report) ∧ second.2.store = first.2.store ∧
          ((reportAgain report).isNoop = true ↔ report.failed = []) := by
  intro first second stale
  have lists : index.store.Lists index.store.entries := ⟨ordered, rfl⟩
  have accepts : ∀ id ∈ stale, index.store.Accepts id := by
    intro id member
    obtain ⟨entry, found, -⟩ := (Option.any_eq_true _ _).1 (lists.mem_staleIds_iff.1 member)
    exact serves.accepts id (by simp [found])
  rcases reindexAll_reports_inv steady lists serves.opened accepts (runs_self _ index) with
    ended | ⟨reports, endless, kind, leaves⟩
  · exact Or.inl ended
  · -- Whoever is stale after the first batch was stale before it and fails, so that the second one
    -- reports it again and has nothing to write.
    have remaining : ∀ id ∈ Listing.staleIds entityType
        (index.store.entries.filterMap (left catalog host entityType)),
        id ∈ stale ∧ ∃ failure, catalog.live host ⟨entityType, id⟩ = .error failure := by
      intro id member
      rw [staleIds_left, List.mem_filter, decide_eq_true_eq, verdict_eq_failed_iff] at member
      exact member
    have opened := (Store.requireOpen_of_kind kind).trans serves.opened
    have unchanged : second.2.store = first.2.store :=
      reindexAll_quiet_inv steady leaves opened (fun id member => (remaining id member).2)
        (runs_self _ first.2)
    have secondReports : second.1 = .ok (reportAgain (batchReport catalog host entityType
        index.store.entries)) := by
      rcases reindexAll_reports_inv steady leaves opened
        (fun id member => Store.accepts_of_kind kind (accepts id (remaining id member).1))
        (runs_self _ first.2) with ⟨failure, -, ending, id, member, fails⟩ | ⟨reported, -⟩
      · exact absurd ⟨ending, id, (remaining id member).1, fails⟩ (endless failure)
      · rw [batchReport_left] at reported
        exact reported
    exact Or.inr ⟨endless, _, reports, reindexes_of_lists steady lists leaves, secondReports,
      unchanged, isNoop_reportAgain_iff _⟩

/-- Posts whose text is always the same word. -/
def titled : Catalog :=
  ⟨default, ⟨true, .ofList [("post", ⟨true, .ofList [("title",
    ⟨.extractor (.constant (.str "needle")), true⟩)]⟩)]⟩, .empty⟩

/-- There are two posts, and one of them cannot be fetched. -/
def partlyDown : Host where
  records := .ofList [(("post", .int 1), ⟨.int 1, .empty⟩), (("post", .int 2), ⟨.int 2, .empty⟩)]
  destroyed := .empty
  relations := .empty
  counters := .empty
  outage := ⟨[("post", .int 2)], [], []⟩

/-- Three posts are stale, and another one is not. -/
def pending : Index :=
  { (default : Index) with
    store := .memory ⟨.ofList [(⟨"post", .int 2⟩, .placeholder),
      (⟨"post", .int 4⟩, .ofTexts ⟨"thread", .empty⟩), (⟨"post", .int 3⟩, .placeholder),
      (⟨"post", .int 1⟩, .placeholder)]⟩ }

theorem reindexAll_settles_partlyDown :
    let first := reindexAll titled partlyDown "post" pending
    let second := reindexAll titled partlyDown "post" first.2
    let report : Report := ⟨"post", [.int 1], [.int 3], [.int 2]⟩
    first.1 = .ok report ∧
      Reindexes titled partlyDown "post" pending.store report first.2.store ∧
      second.1 = .ok ⟨"post", [], [], [.int 2]⟩ ∧ second.2.store = first.2.store := by
  intro first second report
  have steady : titled.IsSteady partlyDown "post" := by
    intro id snapshot found row member value given
    have rows : (titled.registry.get "post").fields.rows =
        [("title", ⟨.extractor (.constant (.str "needle")), true⟩)] := rfl
    rw [rows, List.mem_singleton] at member
    subst member
    cases given
    exact Value.isSteady_of_solid rfl
  have reported : first.1.toOption = some report := by decide +kernel
  rcases reindexAll_settles steady pending trivial ⟨rfl, fun _ _ => trivial⟩ with
    ⟨failure, fails, -⟩ | ⟨-, given, reports, reindexes, repeats, unchanged, -⟩
  · rw [show first.1 = .error failure from fails] at reported
    cases reported
  · rw [show first.1 = .ok given from reports] at reported
    obtain rfl : given = report := Option.some.inj reported
    exact ⟨reports, reindexes, repeats, unchanged⟩

end ShadowIndex.Index
