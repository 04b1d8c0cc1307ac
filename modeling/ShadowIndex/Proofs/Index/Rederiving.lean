import ShadowIndex.Index.Search
import ShadowIndex.Proofs.Host.Candidates
import ShadowIndex.Proofs.Index.Reindexing
import ShadowIndex.Proofs.Index.Sweeping

/-!
Contract: what a full rebuild of a type reports, and what it leaves of the store.

Owns:
- `Index.prepared`, the entries once orphans are gone and every record has a stale entry;
- `Index.Rederives`: whatever the store held before, the type has the entries of the host's records
  and no others, each with its texts now or reported as failed (`Index.rebuildAll_rederives`);
- a second rebuild leaves the same entries and removes nothing.

Does not own: what makes a build fail.
-/

set_option autoImplicit false

namespace ShadowIndex

theorem mapM_key_value (ids : List Id) :
    (ids.map Id.value).mapM Value.key = .ok (ids.map Id.key) := by
  induction ids with
  | nil => rfl
  | cons id rest inductionHypothesis =>
      rw [List.map_cons, List.mapM_cons, inductionHypothesis, Value.key_value]
      rfl

namespace Listing

variable {listing : List Entry} {entityType : String}

theorem find?_filter (keep : Ref → Bool) (listing : List Entry) (owner : Ref) :
    find? (listing.filter fun entry => keep entry.owner) owner =
      if keep owner = true then find? listing owner else none := by
  rw [find?, List.find?_filter]
  by_cases kept : keep owner = true
  · rw [if_pos kept, find?]
    congr 1
    funext entry
    by_cases same : entry.owner = owner
    · simp [same, kept]
    · simp [same]
  · rw [if_neg kept, List.find?_eq_none]
    intro entry _ found
    obtain ⟨passes, rfl⟩ : keep entry.owner = true ∧ entry.owner = owner := by simpa using found
    exact kept passes

theorem ownerIds_eq (entityType : String) (listing : List Entry) :
    ownerIds entityType listing =
      ((owners listing).filter fun owner => decide (owner.entityType = entityType)).map Ref.id := by
  simp only [ownerIds, ofType, owners, List.filter_map, List.map_map]
  rfl

theorem owners_flagType (entityType : String) (listing : List Entry) :
    owners (flagType entityType listing) = owners listing := by
  rw [owners, flagType, List.map_map]
  refine List.map_congr_left fun entry _ => ?_
  simp only [Function.comp_apply]
  split <;> rfl

theorem stale_of_flagType : ∀ entry ∈ flagType entityType listing,
    entry.owner.entityType = entityType → entry.content.stale = true := by
  intro entry member isType
  obtain ⟨former, -, rfl⟩ := List.mem_map.1 member
  split
  · rfl
  · rename_i other
    rw [if_neg other] at isType
    exact absurd isType other

/-- Where every entry of a type is stale, the stale ones are all. -/
theorem staleIds_eq_ownerIds
    (stale : ∀ entry ∈ listing, entry.owner.entityType = entityType → entry.content.stale = true) :
    staleIds entityType listing = ownerIds entityType listing := by
  rw [staleIds, ownerIds, List.filter_eq_self.2]
  intro entry member
  obtain ⟨listed, isType⟩ := List.mem_filter.1 member
  exact stale entry listed (by simpa using isType)

end Listing

namespace Index

variable {catalog : Catalog} {host : Host} {entityType : String} {before after : Store}
  {listing : List Entry} {ids : List Id}

/-! ## Orphans and placeholders -/

/-- The former owners that are no records. -/
def orphans (entityType : String) (ids : List Id) (listing : List Entry) : List Id :=
  (Listing.ownerIds entityType listing).filter fun id => decide (id ∉ ids)

/-- Whether an owner is of another type, or one of the records. -/
def isKept (entityType : String) (ids : List Id) (owner : Ref) : Bool :=
  decide (owner.entityType = entityType → owner.id ∈ ids)

/-- The stale entry that an owner is left. -/
def ensured (owner : Ref) (held : Option Entry) : Option Entry :=
  some ((held.map Entry.asStale).getD ⟨owner, .placeholder⟩)

/-- The entries of a list once orphans are gone and every record has a stale entry. -/
def prepared (entityType : String) (ids : List Id) (listing : List Entry) : List Entry :=
  Listing.tend ensured (ids.map fun id => ⟨entityType, id⟩)
    (listing.filter fun entry => isKept entityType ids entry.owner)

/-- The entries that a full rebuild leaves of a list. -/
def derived (catalog : Catalog) (host : Host) (entityType : String) (ids : List Id)
    (listing : List Entry) : List Entry :=
  (prepared entityType ids listing).filterMap (left catalog host entityType)

/-- What a full rebuild reports of a list. -/
def fullReport (catalog : Catalog) (host : Host) (entityType : String) (ids : List Id)
    (listing : List Entry) : Report :=
  let batch := batchReport catalog host entityType (prepared entityType ids listing)
  { batch with removed := orphans entityType ids listing ++ batch.removed }

theorem isSettling_dropped : Listing.IsSettling fun _ _ => none where
  owned := nofun
  settled := fun _ _ => rfl

theorem isSettling_ensured : Listing.IsSettling ensured where
  owned := by
    intro owner held isOwner entry given
    cases given
    cases held with
    | none => rfl
    | some former => exact isOwner former rfl
  settled := fun _ held => by cases held <;> rfl

theorem isKept_iff (entityType : String) (ids : List Id) (owner : Ref) :
    isKept entityType ids owner = true ↔ (owner.entityType = entityType → owner.id ∈ ids) :=
  decide_eq_true_iff

/-- Dropping the orphans leaves the entries that are kept, in order. -/
theorem tend_orphans (nodup : (Listing.owners listing).Nodup) :
    Listing.tend (fun _ _ => none)
        ((orphans entityType ids listing).map fun id => ⟨entityType, id⟩) listing =
      listing.filter fun entry => isKept entityType ids entry.owner := by
  have isOrphan (owner : Ref) :
      owner ∈ (orphans entityType ids listing).map (fun id => (⟨entityType, id⟩ : Ref)) ↔
        owner ∈ Listing.owners listing ∧ isKept entityType ids owner = false := by
    rw [← Bool.not_eq_true, isKept_iff]
    simp only [orphans, List.mem_map, List.mem_filter, Listing.mem_ownerIds_iff,
      decide_eq_true_eq, Classical.not_imp]
    constructor
    · rintro ⟨id, ⟨known, gone⟩, rfl⟩
      exact ⟨known, rfl, gone⟩
    · rintro ⟨known, rfl, gone⟩
      exact ⟨owner.id, ⟨known, gone⟩, rfl⟩
  rw [Listing.tend_of_known isSettling_dropped nodup fun owner member => ((isOrphan owner).1 member).1,
    ← List.filterMap_eq_filter]
  refine List.filterMap_congr fun entry member => ?_
  simp only [isOrphan, Listing.mem_owners_of_mem member, true_and, Option.guard]
  by_cases kept : isKept entityType ids entry.owner = true
  · simp [kept]
  · simp [kept]

/-- The removal of owners that the store can hold, each once. -/
theorem dropOrphans_inv {gone : List Id} (distinct : gone.Nodup)
    (opened : before.requireOpen = .ok ()) (accepts : ∀ id ∈ gone, before.Accepts id)
    {outcome : Except Failure (List Unit)}
    (runs : Runs (Action.each (dropOrphan entityType) gone) before outcome after) :
    (∃ values, outcome = .ok values) ∧ after.kind = before.kind ∧
      ∀ listing, before.Lists listing → after.Lists
        (Listing.tend (fun _ _ => none) (gone.map fun id => ⟨entityType, id⟩) listing) := by
  have swept := runs.sweep_inv (fun _ _ => none) (fun _ _ => ()) distinct
    fun id member {start finish result} sameKind step => by
      have opened := (Store.requireOpen_of_kind sameKind).trans opened
      have accepted := Store.accepts_of_kind sameKind (accepts id member)
      rcases step.bind_inv with ⟨value, between, held, finish⟩ | ⟨failure, -, held⟩
      · obtain ⟨-, placed⟩ := delete_inv opened accepted held.holding_inv
        obtain ⟨rfl, rfl⟩ := finish.discardLock_inv
        exact ⟨rfl, placed⟩
      · obtain ⟨impossible, -⟩ := delete_inv opened accepted held.holding_inv
        cases impossible
  exact ⟨⟨_, swept.1⟩, swept.2⟩

/-- Each of some ids of a type with a name gets a stale entry. -/
theorem ensureAll_inv (named : entityType ≠ "") (distinct : ids.Nodup)
    (opened : before.requireOpen = .ok ()) (accepts : ∀ id ∈ ids, before.Accepts id)
    {outcome : Except Failure (List Entry)}
    (runs : Runs (Action.each (fun id => holding entityType id (ensureStale entityType id))
      (ids.map Id.value)) before outcome after) :
    (∃ values, outcome = .ok values) ∧ after.kind = before.kind ∧
      ∀ listing, before.Lists listing → after.Lists
        (Listing.tend ensured (ids.map fun id => ⟨entityType, id⟩) listing) := by
  rw [each_map] at runs
  have swept := runs.sweep_inv ensured
    (fun id held => (held.map Entry.asStale).getD ⟨⟨entityType, id⟩, .placeholder⟩) distinct
    fun id member {_ _ result} sameKind step =>
      ensureStale_inv ((Store.requireOpen_of_kind sameKind).trans opened) (Or.inl named)
        (Store.accepts_of_kind sameKind (accepts id member)) step.holding_inv
  exact ⟨⟨_, swept.1⟩, swept.2⟩

/-- A full rebuild drops the orphans, ensures the records, and builds what is stale then. -/
theorem rebuildAll_inv (enumerates : host.Enumerates entityType ids) (named : entityType ≠ "")
    (lists : before.Lists listing) (opened : before.requireOpen = .ok ())
    (accepts : ∀ id, id ∈ Listing.ownerIds entityType listing ∨ id ∈ ids → before.Accepts id)
    {outcome : Except Failure Report}
    (runs : Runs (rebuildAll catalog host entityType) before outcome after) :
    ∃ middle result, middle.kind = before.kind ∧ middle.Lists (prepared entityType ids listing) ∧
      Runs (reindexAll catalog host entityType) middle result after ∧
      outcome = result.map fun report =>
        { report with removed := orphans entityType ids listing ++ report.removed } := by
  have nodup := lists.owners_nodup
  have afterCandidates := runs.bind_quiet_inv fun ran => by
    rw [reading_candidates_source, enumerates.listed] at ran
    exact ran.lift_inv
  have afterKeys := afterCandidates.bind_quiet_inv fun ran => by
    rw [mapM_key_value] at ran
    exact ran.lift_inv
  rcases afterKeys.bind_inv with ⟨owners, start, looked, rest⟩ | ⟨failure, -, looked⟩
  swap
  · obtain ⟨impossible, -⟩ := looked.query_inv
    rw [lists.ownerIds_eq opened] at impossible
    cases impossible
  obtain ⟨same, rfl⟩ := looked.query_inv
  rw [lists.ownerIds_eq opened] at same
  cases same
  have areOrphans : (Listing.ownerIds entityType listing).filter
      (fun id => !(ids.map Id.key).contains id.key) = orphans entityType ids listing := by
    refine List.filter_congr fun id _ => ?_
    rw [Bool.eq_iff_iff]
    simp [List.mem_map_of_injective fun _ _ => Id.key_injective]
  simp only [areOrphans] at rest
  have distinct : (orphans entityType ids listing).Nodup := (Listing.nodup_ownerIds nodup).filter _
  have drops {result : Except Failure (List Unit)} {finish : Store}
      (ran : Runs (Action.each (dropOrphan entityType) (orphans entityType ids listing)) start result
        finish) :=
    dropOrphans_inv distinct opened
      (fun id member => accepts id (Or.inl (List.mem_filter.1 member).1)) ran
  rcases rest.bind_inv with ⟨units, first, ran, rest⟩ | ⟨failure, -, ran⟩
  swap
  · obtain ⟨⟨values, impossible⟩, -⟩ := drops ran
    cases impossible
  obtain ⟨-, firstKind, cleared⟩ := drops ran
  have kept := cleared listing lists
  rw [tend_orphans nodup] at kept
  have ensures {result : Except Failure (List Entry)} {finish : Store}
      (ran : Runs (Action.each (fun id => holding entityType id (ensureStale entityType id))
        (ids.map Id.value)) first result finish) :=
    ensureAll_inv named enumerates.nodup ((Store.requireOpen_of_kind firstKind).trans opened)
      (fun id member => Store.accepts_of_kind firstKind (accepts id (Or.inr member))) ran
  rcases rest.bind_inv with ⟨entries, middle, ran, rest⟩ | ⟨failure, -, ran⟩
  swap
  · obtain ⟨⟨values, impossible⟩, -⟩ := ensures ran
    cases impossible
  obtain ⟨-, kind, leaves⟩ := ensures ran
  rcases rest.bind_inv with ⟨report, last, batch, rest⟩ | ⟨failure, rfl, batch⟩
  · obtain ⟨rfl, rfl⟩ := rest.pure_inv
    exact ⟨middle, _, kind.trans firstKind, leaves _ kept, batch, rfl⟩
  · exact ⟨middle, _, kind.trans firstKind, leaves _ kept, batch, rfl⟩

/-! ## Prepared entries -/

theorem mem_refs_iff (owner : Ref) :
    owner ∈ ids.map (fun id => (⟨entityType, id⟩ : Ref)) ↔
      owner.entityType = entityType ∧ owner.id ∈ ids := by
  obtain ⟨ownerType, id⟩ := owner
  simp only [List.mem_map, Ref.mk.injEq]
  constructor
  · rintro ⟨_, member, rfl, rfl⟩
    exact ⟨rfl, member⟩
  · rintro ⟨rfl, member⟩
    exact ⟨id, member, rfl, rfl⟩

theorem find?_prepared (nodup : (Listing.owners listing).Nodup) (owner : Ref) :
    Listing.find? (prepared entityType ids listing) owner =
      if owner.entityType = entityType then
        if owner.id ∈ ids then ensured owner (Listing.find? listing owner) else none
      else Listing.find? listing owner := by
  have nodupKept : (Listing.owners
      (listing.filter fun entry => isKept entityType ids entry.owner)).Nodup :=
    (List.filter_sublist.map Entry.owner).nodup nodup
  rw [prepared, Listing.find?_tend isSettling_ensured nodupKept, Listing.tended,
    Listing.find?_filter]
  simp only [mem_refs_iff, isKept_iff]
  by_cases isType : owner.entityType = entityType
  · by_cases member : owner.id ∈ ids
    · simp [isType, member]
    · simp [isType, member]
  · simp [isType]

/-- The entries of other types are as they were. -/
theorem clear_prepared (entityType : String) (ids : List Id) (listing : List Entry) :
    Listing.clear (some entityType) (prepared entityType ids listing) =
      Listing.clear (some entityType) listing := by
  rw [prepared, Listing.clear_tend isSettling_ensured fun owner member => ((mem_refs_iff owner).1 member).1]
  simp only [Listing.clear, List.filter_filter]
  refine List.filter_congr fun entry _ => ?_
  by_cases isType : entry.owner.entityType = entityType
  · simp [isType]
  · simp [isType, isKept]

theorem clear_left (catalog : Catalog) (host : Host) (entityType : String) (listing : List Entry) :
    Listing.clear (some entityType) (listing.filterMap (left catalog host entityType)) =
      Listing.clear (some entityType) listing := by
  simp only [Listing.clear, List.filter_filterMap]
  rw [← List.filterMap_eq_filter]
  refine List.filterMap_congr fun entry _ => ?_
  by_cases isType : entry.owner.entityType = entityType
  · cases leaves : left catalog host entityType entry with
    | none => simp [isType, Option.guard]
    | some remaining => simp [isType, owner_of_left leaves, Option.guard]
  · simp [left, isType, Option.guard]

section Prepared

variable {middle : Store} (lists : before.Lists listing)
  (prepares : middle.Lists (prepared entityType ids listing))
include lists prepares

theorem middle_find? (owner : Ref) :
    middle.find? owner =
      if owner.entityType = entityType then
        if owner.id ∈ ids then some (before.staleEntry owner) else none
      else before.find? owner := by
  rw [prepares.find?_eq, find?_prepared lists.owners_nodup, Store.staleEntry, lists.find?_eq]
  rfl

theorem mem_staleIds_prepared (id : Id) :
    id ∈ Listing.staleIds entityType (prepared entityType ids listing) ↔ id ∈ ids := by
  rw [prepares.mem_staleIds_iff, middle_find? lists prepares]
  by_cases member : id ∈ ids
  · simp [member, Store.staleEntry_stale]
  · simp [member]

theorem stale_of_prepared : ∀ entry ∈ prepared entityType ids listing,
    entry.owner.entityType = entityType → entry.content.stale = true := by
  intro entry member isType
  have found := Listing.find?_of_mem prepares.owners_nodup member
  rw [← prepares.find?_eq, middle_find? lists prepares, if_pos isType] at found
  split at found
  · rw [← Option.some.inj found]
    exact before.staleEntry_stale entry.owner
  · cases found

theorem staleIds_prepared :
    Listing.staleIds entityType (prepared entityType ids listing) =
      Listing.ownerIds entityType (prepared entityType ids listing) :=
  Listing.staleIds_eq_ownerIds (stale_of_prepared lists prepares)

end Prepared

/-! ## Full rebuilds as reported -/

/-- What a full rebuild reports and leaves, said of the records of the host and of the entries that
were there before it. -/
structure Rederives (catalog : Catalog) (host : Host) (entityType : String) (before : Store)
    (report : Report) (after : Store) : Prop where
  named : report.entityType = entityType
  /-- The type has the entries of the host's records, and no others. -/
  owned : ∀ id, (after.find? ⟨entityType, id⟩).isSome = true ↔ host.IsLive ⟨entityType, id⟩
  /-- Every record is reported once, as built or as failed. -/
  distinct : (report.reindexed ++ report.failed).Nodup
  whole : ∀ id, id ∈ report.reindexed ++ report.failed ↔ host.IsLive ⟨entityType, id⟩
  mem_failed_iff : ∀ id, id ∈ report.failed ↔
    host.IsLive ⟨entityType, id⟩ ∧ catalog.Raises host ⟨entityType, id⟩
  fresh : ∀ id ∈ report.reindexed, ∃ texts, catalog.Gives host ⟨entityType, id⟩ texts ∧
    after.find? ⟨entityType, id⟩ = some ⟨⟨entityType, id⟩, .ofTexts texts⟩
  /-- What failed is stale and has the texts that it had, or none. -/
  stale : ∀ id ∈ report.failed,
    after.find? ⟨entityType, id⟩ = some (before.staleEntry ⟨entityType, id⟩)
  /-- Former owners without a record are removed, and reported in the order of the store. -/
  removed : List.Sublist report.removed (Listing.ownerIds entityType before.entries)
  mem_removed_iff : ∀ id, id ∈ report.removed ↔
    (before.find? ⟨entityType, id⟩).isSome = true ∧ ¬ host.IsLive ⟨entityType, id⟩
  /-- The entries of other types are as they were, in their order. -/
  others : Listing.clear (some entityType) after.entries =
    Listing.clear (some entityType) before.entries

theorem Host.fetch_ne_none {id : Id} (live : host.IsLive ⟨entityType, id⟩) :
    host.fetch entityType id.value ≠ .ok none := by
  obtain ⟨record, found⟩ := Option.isSome_iff_exists.1 live
  unfold Host.fetch
  split
  · simp [throw, throwThe, MonadExceptOf.throw, bind, Except.bind]
  · simp [Value.key_value, found, bind, Except.bind, pure, Except.pure]

section Reported

variable {middle : Store} {known : Id → Prop} {report : Report} (keyed : host.IsKeyed known)
  (enumerates : host.Enumerates entityType ids) (lists : before.Lists listing)
  (prepares : middle.Lists (prepared entityType ids listing))
include keyed enumerates lists prepares

/-- What is stale before the batch are the records. -/
theorem mem_stale_iff (id : Id) :
    id ∈ Listing.staleIds entityType middle.entries ↔ host.IsLive ⟨entityType, id⟩ := by
  rw [prepares.entries, mem_staleIds_prepared lists prepares, enumerates.mem_iff keyed]

variable (reindexes : Reindexes catalog host entityType middle report after)
include reindexes

/-- No record is missing, so that the batch itself removes nothing. -/
theorem removed_eq_nil : report.removed = [] := by
  refine List.eq_nil_iff_forall_not_mem.2 fun id member => ?_
  obtain ⟨stale, absent⟩ := (reindexes.mem_removed_iff id).1 member
  exact Host.fetch_ne_none ((mem_stale_iff keyed enumerates lists prepares id).1 stale) absent

theorem built_or_failed_perm :
    (report.reindexed ++ report.failed).Perm (Listing.staleIds entityType middle.entries) := by
  have parts := reindexes.whole
  rwa [removed_eq_nil keyed enumerates lists prepares reindexes, List.append_nil] at parts

/-- An owner that was not built has what it had when the batch began. -/
theorem find?_of_not_built {id : Id} (notBuilt : id ∉ report.reindexed) :
    after.find? ⟨entityType, id⟩ =
      if id ∈ ids then some (before.staleEntry ⟨entityType, id⟩) else none := by
  rw [reindexes.kept, middle_find? lists prepares, if_pos rfl]
  rintro ⟨-, built | removed⟩
  · exact notBuilt built
  · rw [removed_eq_nil keyed enumerates lists prepares reindexes] at removed
    cases removed

/-- A batch over prepared entries derives the whole type. -/
theorem rederives_of_reindexes
    (others : Listing.clear (some entityType) after.entries =
      Listing.clear (some entityType) before.entries) :
    Rederives catalog host entityType before
      { report with removed := orphans entityType ids listing ++ report.removed } after := by
  have isStale := mem_stale_iff keyed enumerates lists prepares
  have isLive := enumerates.mem_iff keyed
  have whole := built_or_failed_perm keyed enumerates lists prepares reindexes
  have distinct := whole.nodup_iff.2 reindexes.distinct
  have unbuilt {id : Id} (notBuilt : id ∉ report.reindexed) :=
    find?_of_not_built keyed enumerates lists prepares reindexes notBuilt
  rw [removed_eq_nil keyed enumerates lists prepares reindexes, List.append_nil]
  refine
    { named := reindexes.named
      owned := ?owned
      distinct := distinct
      whole := fun id => by rw [whole.mem_iff, isStale]
      mem_failed_iff := fun id => by rw [reindexes.mem_failed_iff, isStale]
      fresh := reindexes.fresh
      stale := ?stale
      removed := ?removed
      mem_removed_iff := ?gone
      others := others }
  case owned =>
    intro id
    by_cases built : id ∈ report.reindexed
    · obtain ⟨texts, -, found⟩ := reindexes.fresh id built
      simp [found, ← isStale, ((reindexes.mem_reindexed_iff id).1 built).1]
    · rw [unbuilt built, ← isLive]
      split <;> simp_all
  case stale =>
    intro id failed
    have notBuilt : id ∉ report.reindexed :=
      fun built => (List.nodup_append.1 distinct).2.2 id built id failed rfl
    rw [unbuilt notBuilt, if_pos]
    exact (isLive id).2 ((isStale id).1 ((reindexes.mem_failed_iff id).1 failed).1)
  case removed =>
    rw [lists.entries]
    exact List.filter_sublist
  case gone =>
    intro id
    rw [orphans, List.mem_filter, decide_eq_true_eq, isLive, lists.mem_ownerIds_iff]

end Reported

/-! ## Runs -/

/-- The build of some record of a type fails in a way that ends the program. -/
def EndsForRecord (catalog : Catalog) (host : Host) (entityType : String) (failure : Failure) :
    Prop :=
  failure.isEnding = true ∧
    ∃ id, host.IsLive ⟨entityType, id⟩ ∧ catalog.live host ⟨entityType, id⟩ = .error failure

/-- A full rebuild reports and leaves what a batch makes of the prepared entries, unless a build ends
the program. -/
theorem rebuildAll_reports_inv {known : Id → Prop} (steady : catalog.IsSteady host entityType)
    (keyed : host.IsKeyed known) (enumerates : host.Enumerates entityType ids)
    (named : entityType ≠ "") (lists : before.Lists listing)
    (opened : before.requireOpen = .ok ())
    (accepts : ∀ id, id ∈ Listing.ownerIds entityType listing ∨ id ∈ ids → before.Accepts id)
    {outcome : Except Failure Report}
    (runs : Runs (rebuildAll catalog host entityType) before outcome after) :
    (∃ failure, outcome = .error failure ∧ EndsForRecord catalog host entityType failure) ∨
      (∀ failure, ¬ EndsForRecord catalog host entityType failure) ∧
        outcome = .ok (fullReport catalog host entityType ids listing) ∧
        after.kind = before.kind ∧ (∃ middle : Store, middle.Lists (prepared entityType ids listing)) ∧
        after.Lists (derived catalog host entityType ids listing) := by
  obtain ⟨middle, result, kind, prepares, batch, rfl⟩ :=
    rebuildAll_inv enumerates named lists opened accepts runs
  have isStale (id : Id) :
      id ∈ Listing.staleIds entityType (prepared entityType ids listing) ↔
        host.IsLive ⟨entityType, id⟩ := by
    rw [mem_staleIds_prepared lists prepares, enumerates.mem_iff keyed]
  have accepted : ∀ id ∈ Listing.staleIds entityType (prepared entityType ids listing),
      middle.Accepts id := fun id member => Store.accepts_of_kind kind
    (accepts id (Or.inr ((mem_staleIds_prepared lists prepares id).1 member)))
  have ends_iff (failure : Failure) : EndsOne catalog host entityType
      (Listing.staleIds entityType (prepared entityType ids listing)) failure ↔
        EndsForRecord catalog host entityType failure := by
    simp only [EndsOne, EndsForRecord, isStale]
  rcases reindexAll_reports_inv steady prepares ((Store.requireOpen_of_kind kind).trans opened)
      accepted batch with ⟨failure, rfl, ends⟩ | ⟨rfl, endless, lastKind, leaves⟩
  · exact Or.inl ⟨failure, rfl, (ends_iff failure).1 ends⟩
  · exact Or.inr ⟨fun failure ends => endless failure ((ends_iff failure).2 ends), rfl,
      lastKind.trans kind, ⟨middle, prepares⟩, leaves⟩

/-! ## A second rebuild -/

/-- A type whose owners are the records already needs no placeholders. -/
theorem prepared_of_owned (nodup : (Listing.owners listing).Nodup)
    (owned : ∀ id, id ∈ Listing.ownerIds entityType listing ↔ id ∈ ids) :
    prepared entityType ids listing = Listing.flagType entityType listing := by
  have isRecord : ∀ entry ∈ listing, entry.owner.entityType = entityType → entry.owner.id ∈ ids := by
    intro entry member isType
    rw [← owned, Listing.mem_ownerIds_iff, ← isType]
    exact Listing.mem_owners_of_mem member
  have kept : (listing.filter fun entry => isKept entityType ids entry.owner) = listing :=
    List.filter_eq_self.2 fun entry member => (isKept_iff _ _ _).2 (isRecord entry member)
  have flags : Listing.flagType entityType listing = listing.filterMap fun entry =>
      some (if entry.owner.entityType = entityType then entry.asStale else entry) :=
    (congrFun List.filterMap_eq_map listing).symm
  rw [prepared, kept, flags, Listing.tend_of_known isSettling_ensured nodup]
  · refine List.filterMap_congr fun entry member => ?_
    rw [if_congr (mem_refs_iff entry.owner) rfl rfl]
    by_cases isType : entry.owner.entityType = entityType
    · simp [isType, isRecord entry member isType, ensured]
    · simp [isType]
  · intro owner member
    obtain ⟨isType, listed⟩ := (mem_refs_iff owner).1 member
    have known := Listing.mem_ownerIds_iff.1 ((owned owner.id).2 listed)
    rwa [← isType] at known

/-- A batch leaves what another one left, once all entries of the type are flagged again. -/
theorem left_flagType (catalog : Catalog) (host : Host)
    (stale : ∀ entry ∈ listing, entry.owner.entityType = entityType → entry.content.stale = true) :
    (Listing.flagType entityType (listing.filterMap (left catalog host entityType))).filterMap
        (left catalog host entityType) =
      listing.filterMap (left catalog host entityType) := by
  rw [Listing.flagType, List.filterMap_map, List.filterMap_filterMap]
  refine List.filterMap_congr fun entry member => ?_
  by_cases isType : entry.owner.entityType = entityType
  · have isStale := stale entry member isType
    have leaves : left catalog host entityType entry =
        afterRebuild (catalog.live host entry.owner) (some entry) := by
      rw [left, if_pos isType, refreshed_of_stale isStale]
    rw [leaves]
    cases built : catalog.live host entry.owner with
    | error failure =>
        simp [afterRebuild, isType, Entry.asStale_of_stale isStale, leaves, built]
    | ok rebuilt? =>
        cases rebuilt? with
        | none => rfl
        | some fresh =>
            have isOwner := owner_of_live built
            have sameOwner : fresh.asStale.owner = entry.owner := isOwner
            have flagged : fresh.asStale.content.stale = true := rfl
            simp [afterRebuild, isOwner, isType, left, sameOwner, refreshed_of_stale flagged, built]
  · simp [left, isType]

section Again

variable {middle : Store} {known : Id → Prop} (keyed : host.IsKeyed known)
  (enumerates : host.Enumerates entityType ids) (lists : before.Lists listing)
  (prepares : middle.Lists (prepared entityType ids listing))
include keyed enumerates lists prepares

/-- Every owner that was prepared stays, in its place. -/
theorem owners_derived :
    Listing.owners (derived catalog host entityType ids listing) =
      Listing.owners (prepared entityType ids listing) := by
  have kept : ∀ entry ∈ prepared entityType ids listing,
      true = (left catalog host entityType entry).isSome := by
    intro entry member
    refine (Option.isSome_iff_ne_none.2 fun gone => ?_).symm
    obtain ⟨isType, stale, absent⟩ := left_eq_none_iff.1 gone
    have isOwner : (⟨entityType, entry.owner.id⟩ : Ref) = entry.owner := by rw [← isType]
    have listed : entry.owner.id ∈ Listing.staleIds entityType (prepared entityType ids listing) := by
      rw [Listing.mem_staleIds_iff prepares.owners_nodup, isOwner,
        Listing.find?_of_mem prepares.owners_nodup member]
      exact stale
    have live := (enumerates.mem_iff keyed _).1 ((mem_staleIds_prepared lists prepares _).1 listed)
    rw [isOwner] at live
    exact Host.fetch_ne_none live (Catalog.live_eq_none_iff.1 absent)
  rw [derived, owners_left (fun _ => true) kept, List.filter_true]

theorem mem_ownerIds_derived (id : Id) :
    id ∈ Listing.ownerIds entityType (derived catalog host entityType ids listing) ↔ id ∈ ids := by
  rw [Listing.ownerIds_eq, owners_derived keyed enumerates lists prepares, ← Listing.ownerIds_eq,
    ← staleIds_prepared lists prepares, mem_staleIds_prepared lists prepares]

variable (leaves : after.Lists (derived catalog host entityType ids listing))
include leaves

theorem prepared_derived :
    prepared entityType ids (derived catalog host entityType ids listing) =
      Listing.flagType entityType (derived catalog host entityType ids listing) :=
  prepared_of_owned leaves.owners_nodup (mem_ownerIds_derived keyed enumerates lists prepares)

theorem derived_derived :
    derived catalog host entityType ids (derived catalog host entityType ids listing) =
      derived catalog host entityType ids listing := by
  rw [derived, prepared_derived keyed enumerates lists prepares leaves]
  exact left_flagType catalog host (stale_of_prepared lists prepares)

/-- The same records are built, and nobody is an orphan any more. -/
theorem fullReport_derived
    (reindexes : Reindexes catalog host entityType middle
      (batchReport catalog host entityType (prepared entityType ids listing)) after) :
    fullReport catalog host entityType ids (derived catalog host entityType ids listing) =
      { fullReport catalog host entityType ids listing with removed := [] } := by
  have noOrphans :
      orphans entityType ids (derived catalog host entityType ids listing) = [] := by
    refine List.filter_eq_nil_iff.2 fun id member => ?_
    simpa using (mem_ownerIds_derived keyed enumerates lists prepares id).1 member
  have flagged := prepared_derived keyed enumerates lists prepares leaves
  have sameStale : Listing.staleIds entityType
      (prepared entityType ids (derived catalog host entityType ids listing)) =
        Listing.staleIds entityType (prepared entityType ids listing) := by
    rw [flagged, Listing.staleIds_eq_ownerIds, staleIds_prepared lists prepares]
    · simp only [Listing.ownerIds_eq, Listing.owners_flagType]
      rw [owners_derived keyed enumerates lists prepares]
    · exact Listing.stale_of_flagType
  have sameBatch : batchReport catalog host entityType
      (prepared entityType ids (derived catalog host entityType ids listing)) =
        batchReport catalog host entityType (prepared entityType ids listing) := by
    rw [batchReport, batchReport, sameStale]
  simp only [fullReport, noOrphans, sameBatch, List.nil_append,
    removed_eq_nil keyed enumerates lists prepares reindexes]

end Again

/-- Whatever a store holds, a full rebuild derives all entries of a type from the records of the host,
unless a build ends the program. Another one right after it removes nothing and leaves the same
entries. -/
theorem rebuildAll_rederives {known : Id → Prop} (steady : catalog.IsSteady host entityType)
    (keyed : host.IsKeyed known) (named : entityType ≠ "") (index : Index)
    (ordered : index.store.IsOrdered)
    (serves : index.store.Serves fun id =>
      (index.store.find? ⟨entityType, id⟩).isSome = true ∨ host.IsLive ⟨entityType, id⟩) :
    let first := rebuildAll catalog host entityType index
    let second := rebuildAll catalog host entityType first.2
    (∃ failure, first.1 = .error failure ∧ EndsForRecord catalog host entityType failure) ∨
      (∀ failure, ¬ EndsForRecord catalog host entityType failure) ∧
        ∃ report, first.1 = .ok report ∧
          Rederives catalog host entityType index.store report first.2.store ∧
          second.1 = .ok { report with removed := [] } ∧
          second.2.store.entries = first.2.store.entries := by
  intro first second
  obtain ⟨ids, enumerates⟩ := keyed.enumerates entityType
  have lists : index.store.Lists index.store.entries := ⟨ordered, rfl⟩
  have accepts (id : Id)
      (member : id ∈ Listing.ownerIds entityType index.store.entries ∨ id ∈ ids) :
      index.store.Accepts id :=
    serves.accepts id (member.imp lists.mem_ownerIds_iff.1 (enumerates.mem_iff keyed id).1)
  rcases rebuildAll_reports_inv steady keyed enumerates named lists serves.opened accepts
      (runs_self _ index) with ended | ⟨endless, reports, kind, ⟨middle, prepares⟩, leaves⟩
  · exact Or.inl ended
  have reindexes := reindexes_of_lists steady prepares leaves
  have rederives := rederives_of_reindexes keyed enumerates lists prepares reindexes
    (by rw [leaves.entries, derived, clear_left, clear_prepared])
  refine Or.inr ⟨endless, _, reports, rederives, ?_⟩
  have acceptsAgain (id : Id) (member : id ∈ Listing.ownerIds entityType
      (derived catalog host entityType ids index.store.entries) ∨ id ∈ ids) :
      first.2.store.Accepts id := by
    have isRecord := member.elim (mem_ownerIds_derived keyed enumerates lists prepares id).1
      fun isRecord => isRecord
    exact Store.accepts_of_kind kind (accepts id (Or.inr isRecord))
  rcases rebuildAll_reports_inv steady keyed enumerates named leaves
      ((Store.requireOpen_of_kind kind).trans serves.opened) acceptsAgain (runs_self _ first.2) with
    ⟨failure, -, ends⟩ | ⟨-, reportsAgain, -, -, leavesAgain⟩
  · exact absurd ends (endless failure)
  · rw [fullReport_derived keyed enumerates lists prepares leaves reindexes] at reportsAgain
    rw [derived_derived keyed enumerates lists prepares leaves] at leavesAgain
    exact ⟨reportsAgain, leavesAgain.entries.trans leaves.entries.symm⟩

theorem titled_steady : titled.IsSteady partlyDown "post" := by
  intro id snapshot found row member value given
  have rows : (titled.registry.get "post").fields.rows =
      [("title", ⟨.extractor (.constant (.str "needle")), true⟩)] := rfl
  rw [rows, List.mem_singleton] at member
  subst member
  cases given
  exact Value.isSteady_of_solid rfl

theorem partlyDown_keyed : partlyDown.IsKeyed fun _ => True where
  keyed := by
    intro entityType key record found
    have listed := (Table.find?_eq_some_iff _ _ _).1 found
    have rows : partlyDown.records.rows =
        [(("post", .int 1), ⟨.int 1, .empty⟩), (("post", .int 2), ⟨.int 2, .empty⟩)] := rfl
    rw [rows] at listed
    simp only [List.mem_cons, Prod.mk.injEq, List.not_mem_nil, or_false] at listed
    rcases listed with ⟨⟨-, rfl⟩, rfl⟩ | ⟨⟨-, rfl⟩, rfl⟩
    · exact ⟨.int 1, rfl, rfl, trivial⟩
    · exact ⟨.int 2, rfl, rfl, trivial⟩
  real := rfl

/-- One post is up to date with another text, one is gone, and one has no entry. -/
def neglected : Index :=
  { (default : Index) with
    store := .memory ⟨.ofList [(⟨"post", .int 5⟩, .ofTexts ⟨"thread", .empty⟩),
      (⟨"note", .int 5⟩, .ofTexts ⟨"thread", .empty⟩),
      (⟨"post", .int 1⟩, .ofTexts ⟨"thread", .empty⟩)]⟩ }

theorem rebuildAll_rederives_neglected :
    let first := rebuildAll titled partlyDown "post" neglected
    let second := rebuildAll titled partlyDown "post" first.2
    let report : Report := ⟨"post", [.int 1], [.int 5], [.int 2]⟩
    first.1 = .ok report ∧
      Rederives titled partlyDown "post" neglected.store report first.2.store ∧
      second.1 = .ok { report with removed := [] } ∧
      second.2.store.entries = first.2.store.entries := by
  intro first second report
  have reported : first.1.toOption = some report := by decide +kernel
  rcases rebuildAll_rederives titled_steady partlyDown_keyed (by decide) neglected trivial
      ⟨rfl, fun _ _ => trivial⟩ with
    ⟨failure, fails, -⟩ | ⟨-, given, reports, rederives, repeats, unchanged⟩
  · rw [show first.1 = .error failure from fails] at reported
    cases reported
  · rw [show first.1 = .ok given from reports] at reported
    obtain rfl : given = report := Option.some.inj reported
    exact ⟨reports, rederives, repeats, unchanged⟩

end Index

end ShadowIndex
