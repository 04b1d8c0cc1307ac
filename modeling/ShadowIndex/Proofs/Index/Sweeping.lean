import ShadowIndex.Proofs.Index.Members

/-!
Contract: repetitions that cannot fail and that tend every one of some owners.

Owns:
- `Listing.ownerIds`, whom a store knows of a type, in order;
- tending owners of one type leaves the entries of other types as they are (`Listing.clear_tend`);
- the law of a repetition over different ids whose steps always succeed (`Index.Runs.sweep_inv`);
- what flagging every entry of a type makes of a list (`Listing.tend_flags`).

Does not own: why the owners are tended.
-/

set_option autoImplicit false

namespace ShadowIndex

namespace Listing

variable {listing : List Entry} {entityType : String} {told : List Ref}
  {change : Ref → Option Entry → Option Entry}

/-! ## Owners of a type -/

/-- The ids of the owners of a type, in order. -/
def ownerIds (entityType : String) (listing : List Entry) : List Id :=
  (ofType entityType listing).map fun entry => entry.owner.id

theorem owners_of_ownerIds (entityType : String) (listing : List Entry) :
    (ownerIds entityType listing).map (fun id => (⟨entityType, id⟩ : Ref)) =
      owners (ofType entityType listing) := by
  rw [ownerIds, owners, List.map_map]
  refine List.map_congr_left fun entry member => ?_
  have isType := (List.mem_filter.1 member).2
  simp only [decide_eq_true_eq] at isType
  simp only [Function.comp_apply, ← isType]

theorem nodup_ownerIds (nodup : (owners listing).Nodup) : (ownerIds entityType listing).Nodup := by
  have sublist : ((ownerIds entityType listing).map fun id => (⟨entityType, id⟩ : Ref)).Sublist
      (owners listing) := by
    rw [owners_of_ownerIds]
    exact List.filter_sublist.map Entry.owner
  exact (sublist.nodup nodup).of_map _

theorem mem_ownerIds_iff {id : Id} :
    id ∈ ownerIds entityType listing ↔ ⟨entityType, id⟩ ∈ owners listing := by
  simp only [ownerIds, ofType, owners, List.mem_map, List.mem_filter, decide_eq_true_eq]
  constructor
  · rintro ⟨entry, ⟨member, rfl⟩, rfl⟩
    exact ⟨entry, member, rfl⟩
  · rintro ⟨entry, member, isOwner⟩
    exact ⟨entry, ⟨member, by rw [isOwner]⟩, by rw [isOwner]⟩

/-! ## Tended lists -/

theorem clear_place {owner : Ref} {held : Option Entry} (isType : owner.entityType = entityType)
    (isOwner : ∀ entry, held = some entry → entry.owner = owner) (listing : List Entry) :
    clear (some entityType) (place owner held listing) = clear (some entityType) listing := by
  cases held with
  | none =>
      simp only [clear, place, drop, List.filter_filter]
      refine List.filter_congr fun entry _ => ?_
      by_cases same : entry.owner = owner
      · simp [same, isType]
      · simp [same]
  | some given =>
      have givenType : given.owner.entityType = entityType := by rw [isOwner given rfl, isType]
      simp only [clear, place, put]
      split
      · rw [List.filter_map]
        have kept : ∀ entry ∈ listing.filter
            ((fun entry => decide (entry.owner.entityType ≠ entityType)) ∘ fun present =>
              if present.owner = given.owner then given else present),
            (if entry.owner = given.owner then given else entry) = id entry := by
          intro entry member
          have other := (List.mem_filter.1 member).2
          split
          · rename_i same
            simp [same, givenType] at other
          · rfl
        rw [List.map_congr_left kept, List.map_id]
        refine List.filter_congr fun entry _ => ?_
        by_cases same : entry.owner = given.owner
        · simp [same, givenType]
        · simp [same]
      · simp [List.filter_append, givenType]

/-- To tend owners of one type leaves the entries of all other types as they are. The induction is on
the owners; each step leaves its owner an entry of its own, or none. -/
theorem clear_tend (settling : IsSettling change)
    (areType : ∀ owner ∈ told, owner.entityType = entityType) (listing : List Entry) :
    clear (some entityType) (tend change told listing) = clear (some entityType) listing := by
  induction told generalizing listing with
  | nil => rfl
  | cons owner rest inductionHypothesis =>
      rw [tend, inductionHypothesis fun other member => areType other (by simp [member])]
      exact clear_place (areType owner (by simp))
        (settling.owned owner _ (isOwned_find? listing owner)) listing

/-! ## Flags -/

theorem isSettling_asStale : IsSettling fun _ held => held.map Entry.asStale where
  owned := by
    intro owner held isOwner entry flagged
    obtain ⟨former, given, rfl⟩ := Option.map_eq_some_iff.1 flagged
    exact isOwner former given
  settled := fun _ held => by cases held <;> rfl

/-- Every entry of a type flagged where it stands. -/
def flagType (entityType : String) (listing : List Entry) : List Entry :=
  listing.map fun entry => if entry.owner.entityType = entityType then entry.asStale else entry

theorem tend_flags (nodup : (owners listing).Nodup) :
    tend (fun _ held => held.map Entry.asStale)
        ((ownerIds entityType listing).map fun id => ⟨entityType, id⟩) listing =
      flagType entityType listing := by
  have listed (owner : Ref) :
      owner ∈ (ownerIds entityType listing).map (fun id => (⟨entityType, id⟩ : Ref)) ↔
        owner.entityType = entityType ∧ owner ∈ owners listing := by
    rw [owners_of_ownerIds]
    simp only [owners, ofType, List.mem_map, List.mem_filter, decide_eq_true_eq]
    constructor
    · rintro ⟨entry, ⟨member, isType⟩, rfl⟩
      exact ⟨isType, entry, member, rfl⟩
    · rintro ⟨isType, entry, member, rfl⟩
      exact ⟨entry, ⟨member, isType⟩, rfl⟩
  have flags : flagType entityType listing = listing.filterMap fun entry =>
      some (if entry.owner.entityType = entityType then entry.asStale else entry) :=
    (congrFun List.filterMap_eq_map listing).symm
  rw [tend_of_known isSettling_asStale nodup fun owner member => ((listed owner).1 member).2, flags]
  refine List.filterMap_congr fun entry member => ?_
  simp only [listed, mem_owners_of_mem member, and_true, Option.map_some]
  split <;> rfl

end Listing

theorem Store.Lists.ownerIds_eq {store : Store} {listing : List Entry} (lists : store.Lists listing)
    (opened : store.requireOpen = .ok ()) (entityType : String) :
    store.ownerIds entityType = .ok (Listing.ownerIds entityType listing) := by
  rw [Store.ownerIds, lists.allFor_eq opened]
  rfl

theorem Store.Lists.mem_ownerIds_iff {store : Store} {listing : List Entry}
    (lists : store.Lists listing) {entityType : String} {id : Id} :
    id ∈ Listing.ownerIds entityType listing ↔
      (store.find? ⟨entityType, id⟩).isSome = true := by
  rw [Listing.mem_ownerIds_iff, lists.find?_eq, Option.isSome_iff_ne_none, Ne,
    Listing.find?_eq_none_iff, not_not]

/-! ## Repetitions -/

namespace Index

/-- A repetition over different ids whose steps always succeed and each leave one owner what a change
makes of its entry. The induction is on the ids: a step leaves the entries of the later ones as they
are, so that what it gives can be read off the entries before the repetition. -/
theorem Runs.sweep_inv {β : Type} {action : Id → Action Index β} {entityType : String}
    (change : Ref → Option Entry → Option Entry) (give : Id → Option Entry → β) {ids : List Id}
    {before after : Store} {outcome : Except Failure (List β)} (distinct : ids.Nodup)
    (step : ∀ id ∈ ids, ∀ {start finish : Store} {result : Except Failure β},
      start.kind = before.kind → Runs (action id) start result finish →
      result = .ok (give id (start.find? ⟨entityType, id⟩)) ∧
        start.Places ⟨entityType, id⟩
          (change ⟨entityType, id⟩ (start.find? ⟨entityType, id⟩)) finish)
    (runs : Runs (Action.each action ids) before outcome after) :
    outcome = .ok (ids.map fun id => give id (before.find? ⟨entityType, id⟩)) ∧
      after.kind = before.kind ∧
      ∀ listing, before.Lists listing → after.Lists (Listing.tend change
        (ids.map fun id => ⟨entityType, id⟩) listing) := by
  induction ids generalizing before outcome with
  | nil =>
      obtain ⟨rfl, rfl⟩ := runs.each_nil_inv
      exact ⟨rfl, rfl, fun listing lists => lists⟩
  | cons id rest inductionHypothesis =>
      obtain ⟨fresh, distinctRest⟩ := List.nodup_cons.1 distinct
      rcases runs.each_cons_inv with ⟨value, middle, first, others⟩ | ⟨failure, -, first⟩
      · obtain ⟨given, placed⟩ := step id (by simp) rfl first
        cases given
        have later {result : Except Failure (List β)}
            (ran : Runs (Action.each action rest) middle result after) :=
          inductionHypothesis distinctRest (fun other member {start finish result} sameKind =>
            step other (by simp [member]) (sameKind.trans placed.kind)) ran
        have unmoved : ∀ other ∈ rest,
            middle.find? ⟨entityType, other⟩ = before.find? ⟨entityType, other⟩ := by
          intro other member
          rw [placed.found, Function.update_of_ne]
          rintro ⟨⟩
          exact fresh member
        rcases others with ⟨values, rfl, ran⟩ | ⟨failure, -, ran⟩
        · obtain ⟨given, kind, lists⟩ := later ran
          cases given
          refine ⟨?_, kind.trans placed.kind, fun listing listed => ?_⟩
          · rw [List.map_cons, List.map_congr_left fun other member => by rw [unmoved other member]]
          · have left := lists _ (placed.lists listed)
            rwa [listed.find?_eq] at left
        · obtain ⟨impossible, -⟩ := later ran
          cases impossible
      · obtain ⟨impossible, -⟩ := step id (by simp) rfl first
        cases impossible

end Index

end ShadowIndex
