import ShadowIndex.Proofs.Index.Batch
import ShadowIndex.Proofs.Store.Tending

/-!
Contract: what a batch makes of each stale entry of its type.

Owns:
- `Listing.staleIds`, whom a batch looks at, and `Index.left`, what it leaves of an entry;
- `Index.verdict`, what it reports of a stale entry, and `Index.batchReport`, of all;
- the law of a repetition over the ids of different stale entries (`Index.Runs.members_inv`);
- `Index.reindexAll_reports_inv`: a batch reports and leaves the entries of a list so, in order.

Does not own: what the report says of the records of the host.
-/

set_option autoImplicit false

namespace ShadowIndex

/-! ## Stale entries -/

namespace Listing

variable {listing : List Entry} {entityType : String} {id : Id}

/-- The ids of the stale entries of a type, in order. -/
def staleIds (entityType : String) (listing : List Entry) : List Id :=
  ((ofType entityType listing).filter fun entry => entry.content.stale).map fun entry =>
    entry.owner.id

theorem mem_staleIds_iff (nodup : (owners listing).Nodup) :
    id ∈ staleIds entityType listing ↔
      (find? listing ⟨entityType, id⟩).any (fun entry => entry.content.stale) = true := by
  simp only [staleIds, ofType, List.mem_map, List.mem_filter, decide_eq_true_eq,
    Option.any_eq_true]
  constructor
  · rintro ⟨entry, ⟨⟨member, rfl⟩, stale⟩, rfl⟩
    exact ⟨entry, find?_of_mem nodup member, stale⟩
  · rintro ⟨entry, found, stale⟩
    have isOwner := owner_of_find? found
    exact ⟨entry, ⟨⟨List.mem_of_find?_eq_some found, by rw [isOwner]⟩, stale⟩, by rw [isOwner]⟩

theorem mem_staleOwners_iff (nodup : (owners listing).Nodup) {owner : Ref} :
    owner ∈ (staleIds entityType listing).map (fun id => (⟨entityType, id⟩ : Ref)) ↔
      owner.entityType = entityType ∧
        (find? listing owner).any (fun entry => entry.content.stale) = true := by
  obtain ⟨ownerType, id⟩ := owner
  simp only [List.mem_map, Ref.mk.injEq]
  constructor
  · rintro ⟨_, member, rfl, rfl⟩
    exact ⟨rfl, (mem_staleIds_iff nodup).1 member⟩
  · rintro ⟨rfl, stale⟩
    exact ⟨id, (mem_staleIds_iff nodup).2 stale, rfl, rfl⟩

theorem owners_of_staleIds (entityType : String) (listing : List Entry) :
    (staleIds entityType listing).map (fun id => (⟨entityType, id⟩ : Ref)) =
      owners ((ofType entityType listing).filter fun entry => entry.content.stale) := by
  rw [staleIds, owners, List.map_map]
  refine List.map_congr_left fun entry member => ?_
  have isType := (List.mem_filter.1 (List.mem_filter.1 member).1).2
  simp only [decide_eq_true_eq] at isType
  simp only [Function.comp_apply, ← isType]

theorem sublist_owners_of_staleIds (entityType : String) (listing : List Entry) :
    ((staleIds entityType listing).map fun id => (⟨entityType, id⟩ : Ref)).Sublist
      (owners listing) := by
  rw [owners_of_staleIds]
  exact (List.filter_sublist.trans List.filter_sublist).map Entry.owner

theorem nodup_staleIds (nodup : (owners listing).Nodup) : (staleIds entityType listing).Nodup :=
  ((sublist_owners_of_staleIds entityType listing).nodup nodup).of_map _

theorem staleIds_cons (entry : Entry) (rest : List Entry) :
    staleIds entityType (entry :: rest) =
      if entry.owner.entityType = entityType ∧ entry.content.stale = true then
        entry.owner.id :: staleIds entityType rest
      else staleIds entityType rest := by
  by_cases isType : entry.owner.entityType = entityType
  · by_cases stale : entry.content.stale = true
    · simp [staleIds, ofType, isType, stale]
    · simp [staleIds, ofType, isType, stale]
  · simp [staleIds, ofType, isType]

end Listing

theorem Store.Lists.mem_staleIds_iff {store : Store} {listing : List Entry}
    (lists : store.Lists listing) {entityType : String} {id : Id} :
    id ∈ Listing.staleIds entityType listing ↔
      (store.find? ⟨entityType, id⟩).any (fun entry => entry.content.stale) = true := by
  rw [Listing.mem_staleIds_iff lists.owners_nodup, lists.find?_eq]

namespace Index

variable {catalog : Catalog} {host : Host} {entityType : String} {before after : Store}
  {listing : List Entry}

/-! ## Members of a batch -/

/-- What a batch reports of a stale entry. -/
def verdict (result : Except Failure (Option Entry)) : Outcome :=
  match result with
  | .ok (some _) => .rebuilt
  | .ok none => .removed
  | .error _ => .failed

theorem outcomeOf_of_stale {held : Option Entry}
    (stale : held.any (fun entry => entry.content.stale) = true)
    (result : Except Failure (Option Entry)) : outcomeOf result held = verdict result := by
  match result with
  | .ok (some _) => simp [outcomeOf, verdict, stale]
  | .ok none => simp [outcomeOf, verdict, stale]
  | .error _ => simp [outcomeOf, verdict, stale]

theorem not_isEnding_of_isRebuildFailure {failure : Failure}
    (handled : isRebuildFailure failure = true) : failure.isEnding = false := by
  unfold isRebuildFailure at handled
  split at handled
  · rfl
  · cases handled

/-- A build that fails for one of some records, in a way that ends the program. -/
def EndsOne (catalog : Catalog) (host : Host) (entityType : String) (ids : List Id)
    (failure : Failure) : Prop :=
  failure.isEnding = true ∧ ∃ id ∈ ids, catalog.live host ⟨entityType, id⟩ = .error failure

theorem verdict_eq_rebuilt_iff {result : Except Failure (Option Entry)} :
    verdict result = .rebuilt ↔ ∃ entry, result = .ok (some entry) := by
  match result with
  | .ok (some entry) => simp [verdict]
  | .ok none => simp [verdict]
  | .error failure => simp [verdict]

theorem verdict_eq_removed_iff {result : Except Failure (Option Entry)} :
    verdict result = .removed ↔ result = .ok none := by
  match result with
  | .ok (some entry) => simp [verdict]
  | .ok none => simp [verdict]
  | .error failure => simp [verdict]

theorem verdict_eq_failed_iff {result : Except Failure (Option Entry)} :
    verdict result = .failed ↔ ∃ failure, result = .error failure := by
  match result with
  | .ok (some entry) => simp [verdict]
  | .ok none => simp [verdict]
  | .error failure => simp [verdict]

theorem verdict_cases (result : Except Failure (Option Entry)) :
    verdict result = .rebuilt ∨ verdict result = .removed ∨ verdict result = .failed := by
  match result with
  | .ok (some entry) => exact Or.inl rfl
  | .ok none => exact Or.inr (Or.inl rfl)
  | .error failure => exact Or.inr (Or.inr rfl)

section Steady

variable (steady : catalog.IsSteady host entityType)
include steady

/-- A stale member is reported as its build came out, and left what the build leaves, unless the
build ends the program. -/
theorem stale_member_inv (opened : before.requireOpen = .ok ()) {id : Id}
    (accepts : before.Accepts id)
    (stale : (before.find? ⟨entityType, id⟩).any (fun entry => entry.content.stale) = true)
    {outcome : Except Failure (Id × Outcome)}
    (runs : Runs (refresh catalog host entityType id) before outcome after) :
    (∃ failure, outcome = .error failure ∧ failure.isEnding = true ∧
        catalog.live host ⟨entityType, id⟩ = .error failure) ∨
      outcome = .ok (id, verdict (catalog.live host ⟨entityType, id⟩)) ∧
        (∀ failure, catalog.live host ⟨entityType, id⟩ = .error failure →
          failure.isEnding = false) ∧
        before.Places ⟨entityType, id⟩ (refreshed (catalog.live host ⟨entityType, id⟩)
          (before.find? ⟨entityType, id⟩)) after := by
  obtain ⟨result, ⟨streams, built⟩, placed, known⟩ := refresh_inv opened accepts runs
  have isLive := built.trans (Catalog.liveEntry_eq_live steady id streams)
  rcases memberOutcome_cases result (before.find? ⟨entityType, id⟩) with
    ⟨gives, handled⟩ | ⟨failure, fails, rfl, unhandled⟩
  · rw [gives, outcomeOf_of_stale stale] at known
    rw [isLive] at known placed handled
    exact Or.inr ⟨known, fun failure fails =>
      not_isEnding_of_isRebuildFailure (handled failure fails stale), placed⟩
  · rw [fails] at known
    exact Or.inl ⟨failure, known, Catalog.isEnding_of_liveEntry built.symm unhandled, isLive.symm⟩

/-- A repetition over the ids of different stale entries. The induction is on the ids: a step leaves
the entries of the other ids as they are, so that they are stale when their turn comes. -/
theorem Runs.members_inv {ids : List Id} (distinct : ids.Nodup)
    (opened : before.requireOpen = .ok ()) (accepts : ∀ id ∈ ids, before.Accepts id)
    (stale : ∀ id ∈ ids,
      (before.find? ⟨entityType, id⟩).any (fun entry => entry.content.stale) = true)
    {outcome : Except Failure (List (Id × Outcome))}
    (runs : Runs (Action.each (refresh catalog host entityType) ids) before outcome after) :
    (∃ failure, outcome = .error failure ∧ EndsOne catalog host entityType ids failure) ∨
      outcome = .ok (ids.map fun id => (id, verdict (catalog.live host ⟨entityType, id⟩))) ∧
        (∀ failure, ¬ EndsOne catalog host entityType ids failure) ∧
        after.kind = before.kind ∧
        ∀ listing, before.Lists listing → after.Lists (Listing.tend
          (fun owner => refreshed (catalog.live host owner))
          (ids.map fun id => ⟨entityType, id⟩) listing) := by
  induction ids generalizing before outcome with
  | nil =>
      obtain ⟨rfl, rfl⟩ := runs.each_nil_inv
      refine Or.inr ⟨rfl, ?_, rfl, fun listing lists => lists⟩
      rintro failure ⟨-, id, member, -⟩
      cases member
  | cons id rest inductionHypothesis =>
      obtain ⟨fresh, distinctRest⟩ := List.nodup_cons.1 distinct
      have first {middle : Store} {result : Except Failure (Id × Outcome)}
          (ran : Runs (refresh catalog host entityType id) before result middle) :=
        stale_member_inv steady opened (accepts id (by simp)) (stale id (by simp)) ran
      rcases runs.each_cons_inv with ⟨value, middle, ran, others⟩ | ⟨failure, rfl, ran⟩
      · rcases first ran with ⟨failure, impossible, -⟩ | ⟨given, endless, placed⟩
        · cases impossible
        cases given
        have later {result : Except Failure (List (Id × Outcome))}
            (ranRest : Runs (Action.each (refresh catalog host entityType) rest) middle result
              after) := by
          refine inductionHypothesis distinctRest
            ((Store.requireOpen_of_kind placed.kind).trans opened) (fun other member =>
              Store.accepts_of_kind placed.kind (accepts other (by simp [member])))
            (fun other member => ?_) ranRest
          have different : (⟨entityType, other⟩ : Ref) ≠ ⟨entityType, id⟩ := by
            rintro ⟨⟩
            exact fresh member
          rw [placed.found, Function.update_of_ne different]
          exact stale other (by simp [member])
        rcases others with ⟨values, rfl, ranRest⟩ | ⟨failure, rfl, ranRest⟩
        · rcases later ranRest with ⟨failure, impossible, -⟩ | ⟨given, endlessRest, kind, lists⟩
          · cases impossible
          cases given
          refine Or.inr ⟨rfl, ?_, kind.trans placed.kind, fun listing listed => ?_⟩
          · rintro failure ⟨ending, other, member, fails⟩
            rcases List.mem_cons.1 member with rfl | member
            · rw [endless failure fails] at ending
              cases ending
            · exact endlessRest failure ⟨ending, other, member, fails⟩
          · have left := lists _ (placed.lists listed)
            rwa [listed.find?_eq] at left
        · rcases later ranRest with ⟨other, same, ending, failing, member, fails⟩ | ⟨impossible, -⟩
          · cases same
            exact Or.inl ⟨failure, rfl, ending, failing, by simp [member], fails⟩
          · cases impossible
      · rcases first ran with ⟨other, same, ending, fails⟩ | ⟨impossible, -⟩
        · cases same
          exact Or.inl ⟨failure, rfl, ending, id, by simp, fails⟩
        · cases impossible

end Steady

/-! ## What a batch leaves -/

/-- What a batch leaves of an entry. -/
def left (catalog : Catalog) (host : Host) (entityType : String) (entry : Entry) : Option Entry :=
  if entry.owner.entityType = entityType then
    refreshed (catalog.live host entry.owner) (some entry)
  else some entry

theorem isSettling_refreshed (catalog : Catalog) (host : Host) :
    Listing.IsSettling fun owner => refreshed (catalog.live host owner) where
  owned := by
    intro owner held isOwner entry given
    unfold refreshed at given
    split at given
    · exact owner_of_afterRebuild isOwner entry given
    · exact isOwner entry given
  settled := refreshed_idempotent catalog host

/-- The list after the stale entries of a type were tended: each entry stands where it stood, as the
batch leaves it. -/
theorem tend_staleIds (nodup : (Listing.owners listing).Nodup) :
    Listing.tend (fun owner => refreshed (catalog.live host owner))
        ((Listing.staleIds entityType listing).map fun id => ⟨entityType, id⟩) listing =
      listing.filterMap (left catalog host entityType) := by
  have known := (Listing.sublist_owners_of_staleIds entityType listing).subset
  rw [Listing.tend_of_known (isSettling_refreshed catalog host) nodup fun _ member => known member]
  refine List.filterMap_congr fun entry member => ?_
  have found := Listing.find?_of_mem nodup member
  simp only [left, Listing.mem_staleOwners_iff nodup, found]
  by_cases isType : entry.owner.entityType = entityType
  · by_cases stale : entry.content.stale = true
    · simp [isType, stale]
    · rw [refreshed_of_not_stale (by simpa using stale)]
      simp [stale]
  · simp [isType]

theorem left_eq_none_iff {entry : Entry} :
    left catalog host entityType entry = none ↔
      entry.owner.entityType = entityType ∧ entry.content.stale = true ∧
        catalog.live host entry.owner = .ok none := by
  by_cases isType : entry.owner.entityType = entityType
  · by_cases stale : entry.content.stale = true
    · rw [left, if_pos isType, refreshed_of_stale stale]
      match catalog.live host entry.owner with
      | .ok (some _) => simp [afterRebuild]
      | .ok none => simp [afterRebuild, isType, stale]
      | .error _ => simp [afterRebuild]
    · rw [left, if_pos isType, refreshed_of_not_stale (by simpa using stale)]
      simp [stale]
  · simp [left, isType]

theorem owner_of_left {entry remaining : Entry}
    (leaves : left catalog host entityType entry = some remaining) :
    remaining.owner = entry.owner := by
  unfold left at leaves
  split at leaves
  · refine (isSettling_refreshed catalog host).owned entry.owner (some entry) ?_ remaining leaves
    rintro _ ⟨⟩
    rfl
  · cases leaves
    rfl

/-- What an owner has after a batch. -/
theorem find?_left (nodup : (Listing.owners listing).Nodup) (owner : Ref) :
    Listing.find? (listing.filterMap (left catalog host entityType)) owner =
      if owner.entityType = entityType ∧
          (Listing.find? listing owner).any (fun entry => entry.content.stale) = true then
        afterRebuild (catalog.live host owner) (Listing.find? listing owner)
      else Listing.find? listing owner := by
  rw [← tend_staleIds nodup, Listing.find?_tend (isSettling_refreshed catalog host) nodup,
    Listing.tended]
  simp only [Listing.mem_staleOwners_iff nodup]
  split
  · rename_i tended
    rw [refreshed, if_pos tended.2]
  · rfl

/-- Whom a batch leaves an entry. -/
theorem owners_left (kept : Ref → Bool)
    (isKept : ∀ entry ∈ listing,
      kept entry.owner = (left catalog host entityType entry).isSome) :
    Listing.owners (listing.filterMap (left catalog host entityType)) =
      (Listing.owners listing).filter kept := by
  induction listing with
  | nil => rfl
  | cons entry rest inductionHypothesis =>
      have known := isKept entry List.mem_cons_self
      have others := inductionHypothesis fun other member =>
        isKept other (List.mem_cons_of_mem entry member)
      cases leaves : left catalog host entityType entry with
      | none =>
          rw [leaves] at known
          rw [List.filterMap_cons_none leaves, others]
          simp [Listing.owners, known]
      | some remaining =>
          rw [leaves] at known
          have isOwner := owner_of_left leaves
          rw [List.filterMap_cons_some leaves]
          simp only [Listing.owners, List.map_cons, List.filter_cons, known, isOwner,
            Option.isSome_some, if_true] at others ⊢
          rw [others]

/-! ## What a batch reports -/

/-- What a batch reports of the stale entries of a list. -/
def batchReport (catalog : Catalog) (host : Host) (entityType : String) (listing : List Entry) :
    Report :=
  reportOf entityType ((Listing.staleIds entityType listing).map fun id =>
    (id, verdict (catalog.live host ⟨entityType, id⟩)))

theorem withOutcome_map (what : Outcome) (ids : List Id) (judge : Id → Outcome) :
    withOutcome what (ids.map fun id => (id, judge id)) =
      ids.filter fun id => decide (judge id = what) := by
  simp [withOutcome, List.filter_map, Function.comp_def]

/-- A list is made up of its parts of three verdicts, if there is no other verdict. -/
theorem parts_perm {judge : Id → Outcome}
    (judged : ∀ id, judge id = .rebuilt ∨ judge id = .removed ∨ judge id = .failed) (ids : List Id) :
    ((ids.filter fun id => decide (judge id = .rebuilt)) ++
      (ids.filter fun id => decide (judge id = .removed)) ++
        ids.filter fun id => decide (judge id = .failed)).Perm ids := by
  induction ids with
  | nil => exact .refl _
  | cons id rest inductionHypothesis =>
      rcases judged id with rebuilt | removed | failed
      · simpa [rebuilt] using inductionHypothesis
      · simp only [List.filter_cons, removed, reduceCtorEq, decide_false, decide_true,
          Bool.false_eq_true, if_false, if_true, List.append_assoc, List.cons_append]
        rw [List.append_assoc] at inductionHypothesis
        exact List.perm_middle.trans (inductionHypothesis.cons id)
      · simp only [List.filter_cons, failed, reduceCtorEq, decide_false, decide_true,
          Bool.false_eq_true, if_false, if_true]
        exact List.perm_middle.trans (inductionHypothesis.cons id)

theorem mem_part_iff {what : Outcome} {ids : List Id} {judge : Id → Outcome} {id : Id} :
    id ∈ withOutcome what (ids.map fun id => (id, judge id)) ↔ id ∈ ids ∧ judge id = what := by
  rw [withOutcome_map, List.mem_filter, decide_eq_true_eq]

theorem part_sublist (what : Outcome) (ids : List Id) (judge : Id → Outcome) :
    (withOutcome what (ids.map fun id => (id, judge id))).Sublist ids := by
  rw [withOutcome_map]
  exact List.filter_sublist

/-- A batch reports every stale entry of its type as its build comes out, and leaves each entry in its
place as the build leaves it, unless a build ends the program. -/
theorem reindexAll_reports_inv (steady : catalog.IsSteady host entityType)
    (lists : before.Lists listing) (opened : before.requireOpen = .ok ())
    (accepts : ∀ id ∈ Listing.staleIds entityType listing, before.Accepts id)
    {outcome : Except Failure Report}
    (runs : Runs (reindexAll catalog host entityType) before outcome after) :
    (∃ failure, outcome = .error failure ∧
        EndsOne catalog host entityType (Listing.staleIds entityType listing) failure) ∨
      outcome = .ok (batchReport catalog host entityType listing) ∧
        (∀ failure,
          ¬ EndsOne catalog host entityType (Listing.staleIds entityType listing) failure) ∧
        after.kind = before.kind ∧ after.Lists (listing.filterMap (left catalog host entityType)) := by
  have nodup := lists.owners_nodup
  obtain ⟨members, ran, rfl⟩ := refreshAll_members_inv (lists.allStaleFor_eq opened entityType)
    (refreshAll_of_reindexAll runs)
  rcases Runs.members_inv steady (Listing.nodup_staleIds nodup) opened accepts
    (fun id => lists.mem_staleIds_iff.1) ran with
    ⟨failure, rfl, ends⟩ | ⟨rfl, endless, kind, leaves⟩
  · exact Or.inl ⟨failure, rfl, ends⟩
  · refine Or.inr ⟨rfl, endless, kind, ?_⟩
    rw [← tend_staleIds nodup]
    exact leaves listing lists

end Index

end ShadowIndex
