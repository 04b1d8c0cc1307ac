import ShadowIndex.Proofs.Query.Distinct
import ShadowIndex.Proofs.Store.Listing

/-!
Contract: lists of entries after some owners were tended, one after the other.

Owns:
- `Listing.tend`, which leaves each of some owners what a change makes of its entry;
- `Listing.tend_eq`: whoever was listed keeps its place, and owners that are new follow in the order
  in which they were tended first; without new ones, `Listing.tend_of_known`.

Does not own: who is tended, or what is left of an entry.
-/

set_option autoImplicit false

namespace ShadowIndex.Listing

/-- Changes that leave an owner an entry of its own, and that do nothing more when made again. -/
structure IsSettling (change : Ref → Option Entry → Option Entry) : Prop where
  owned : ∀ owner held, (∀ entry, held = some entry → entry.owner = owner) →
    ∀ entry, change owner held = some entry → entry.owner = owner
  settled : ∀ owner held, change owner (change owner held) = change owner held

/-- Leaves each owner, one after the other, what the change makes of the entry that it has. -/
def tend (change : Ref → Option Entry → Option Entry) : List Ref → List Entry → List Entry
  | [], listing => listing
  | owner :: rest, listing =>
      tend change rest (place owner (change owner (find? listing owner)) listing)

theorem tend_append (change : Ref → Option Entry → Option Entry) (first second : List Ref)
    (listing : List Entry) :
    tend change (first ++ second) listing = tend change second (tend change first listing) := by
  induction first generalizing listing with
  | nil => rfl
  | cons owner rest inductionHypothesis =>
      rw [List.cons_append, tend, tend, inductionHypothesis]

/-- The owners of some that are not among others, each once. -/
def newcomers (known told : List Ref) : List Ref :=
  (distinct told).filter fun owner => decide (owner ∉ known)

/-- What is left of the entries of owners when some of them were tended. -/
def tended (change : Ref → Option Entry → Option Entry) (told : List Ref)
    (view : Ref → Option Entry) : Ref → Option Entry := fun owner =>
  if owner ∈ told then change owner (view owner) else view owner

/-! ## Entries in an order of owners -/

variable {order told : List Ref} {view : Ref → Option Entry} {owner : Ref} {held : Option Entry}
variable {change : Ref → Option Entry → Option Entry}

/-- Views that give an owner only entries of its own. -/
def IsOwned (view : Ref → Option Entry) : Prop :=
  ∀ owner entry, view owner = some entry → entry.owner = owner

theorem mem_owners_filterMap (owned : IsOwned view) :
    owner ∈ owners (order.filterMap view) ↔ owner ∈ order ∧ (view owner).isSome := by
  simp only [owners, List.mem_map, List.mem_filterMap, Option.isSome_iff_exists]
  constructor
  · rintro ⟨entry, ⟨other, member, found⟩, rfl⟩
    rw [owned other entry found]
    exact ⟨member, entry, found⟩
  · rintro ⟨member, entry, found⟩
    exact ⟨entry, ⟨owner, member, found⟩, owned owner entry found⟩

/-- A list is what its owners have, in their order. -/
theorem filterMap_find? {listing : List Entry} (nodup : (owners listing).Nodup) :
    (owners listing).filterMap (find? listing) = listing := by
  have kept : listing.filterMap (find? listing ∘ Entry.owner) = listing.filterMap some :=
    List.filterMap_congr fun _ => find?_of_mem nodup
  rw [owners, List.filterMap_map, kept, List.filterMap_some]

theorem find?_filterMap (owned : IsOwned view) (order : List Ref) (owner : Ref) :
    find? (order.filterMap view) owner = if owner ∈ order then view owner else none := by
  induction order with
  | nil => rfl
  | cons first rest inductionHypothesis =>
      cases held : view first with
      | none =>
          rw [List.filterMap_cons_none held, inductionHypothesis]
          by_cases same : owner = first
          · subst same
            simp [held]
          · simp [same]
      | some entry =>
          have isOwner := owned first entry held
          rw [List.filterMap_cons_some held, find?, List.find?_cons]
          by_cases same : owner = first
          · subst same
            simp [isOwner, held]
          · have different : entry.owner ≠ owner := fun equal => same (equal.symm.trans isOwner)
            simp only [different, decide_false, List.mem_cons, same, false_or]
            exact inductionHypothesis

/-- Leaving an owner something changes only its own entry, where the owner has its place. -/
theorem place_filterMap_of_mem (owned : IsOwned view) (member : owner ∈ order)
    (isOwner : ∀ entry, held = some entry → entry.owner = owner)
    (present : held.isSome → (view owner).isSome) :
    place owner held (order.filterMap view) =
      order.filterMap (Function.update view owner held) := by
  cases held with
  | none =>
      rw [place, drop, List.filter_filterMap]
      refine List.filterMap_congr fun other _ => ?_
      by_cases same : other = owner
      · subst same
        cases found : view other with
        | none => simp
        | some entry => simp [owned other entry found]
      · rw [Function.update_of_ne same]
        cases found : view other with
        | none => rfl
        | some entry => simp [owned other entry found, same]
  | some entry =>
      have sameOwner := isOwner entry rfl
      have listed : entry.owner ∈ owners (order.filterMap view) :=
        (mem_owners_filterMap owned).2 ⟨sameOwner ▸ member, sameOwner ▸ present rfl⟩
      rw [place, put, if_pos listed, List.map_filterMap, sameOwner]
      refine List.filterMap_congr fun other _ => ?_
      by_cases same : other = owner
      · subst same
        obtain ⟨old, found⟩ := Option.isSome_iff_exists.1 (present rfl)
        simp [found, owned other old found]
      · rw [Function.update_of_ne same]
        cases found : view other with
        | none => rfl
        | some old => simp [owned other old found, same]

/-- An owner that has no place gets the last one. -/
theorem place_filterMap_of_not_mem (owned : IsOwned view) (absent : owner ∉ order)
    (isOwner : ∀ entry, held = some entry → entry.owner = owner) :
    place owner held (order.filterMap view) =
      (order ++ [owner]).filterMap (Function.update view owner held) := by
  have others : order.filterMap (Function.update view owner held) = order.filterMap view := by
    refine List.filterMap_congr fun other member => Function.update_of_ne ?_ _ _
    exact fun same => absent (same ▸ member)
  have unlisted : owner ∉ owners (order.filterMap view) :=
    fun listed => absent ((mem_owners_filterMap owned).1 listed).1
  rw [List.filterMap_append, others]
  cases held with
  | none => simp [place, drop_eq_self unlisted]
  | some entry =>
      rw [← isOwner entry rfl] at unlisted
      simp [place, put, unlisted]

theorem isOwned_find? (listing : List Entry) : IsOwned (find? listing) :=
  fun _ _ found => owner_of_find? found

theorem IsOwned.update (owned : IsOwned view)
    (isOwner : ∀ entry, held = some entry → entry.owner = owner) :
    IsOwned (Function.update view owner held) := by
  intro other entry found
  by_cases same : other = owner
  · subst same
    rw [Function.update_self] at found
    exact isOwner entry found
  · rw [Function.update_of_ne same] at found
    exact owned other entry found

/-- What an owner is left after it was given an entry takes the place of that entry. -/
theorem place_place {listing : List Entry} (nodup : (owners listing).Nodup) {given : Entry}
    (isOwner : given.owner = owner) (isOwned : ∀ entry, held = some entry → entry.owner = owner) :
    place owner held (place owner (some given) listing) = place owner held listing := by
  have owned := isOwned_find? listing
  have gives : ∀ entry, some given = some entry → entry.owner = owner := by
    rintro _ ⟨⟩
    exact isOwner
  have has : (Function.update (find? listing) owner (some given) owner).isSome := by simp
  rw [← filterMap_find? nodup]
  by_cases member : owner ∈ owners listing
  · have present : (find? listing owner).isSome := by
      rw [Option.isSome_iff_ne_none]
      exact fun absent => (find?_eq_none_iff listing owner).1 absent member
    rw [place_filterMap_of_mem owned member gives fun _ => present,
      place_filterMap_of_mem (owned.update gives) member isOwned fun _ => has,
      place_filterMap_of_mem owned member isOwned fun _ => present, Function.update_idem]
  · rw [place_filterMap_of_not_mem owned member gives,
      place_filterMap_of_mem (owned.update gives) (by simp) isOwned fun _ => has,
      place_filterMap_of_not_mem owned member isOwned, Function.update_idem]

/-! ## The list after all were tended -/

theorem newcomers_cons_of_mem (known rest : List Ref) (member : owner ∈ known) :
    newcomers known (owner :: rest) = newcomers known rest := by
  simp only [newcomers, distinct, List.filter_cons, member, not_true_eq_false, decide_false,
    Bool.false_eq_true, if_false, List.filter_filter]
  refine List.filter_congr fun other _ => ?_
  by_cases same : other = owner
  · simp [same, member]
  · simp [same]

theorem newcomers_cons_of_not_mem (known rest : List Ref) (absent : owner ∉ known) :
    newcomers known (owner :: rest) = owner :: newcomers (known ++ [owner]) rest := by
  simp only [newcomers, distinct, List.filter_cons, absent, not_false_eq_true, decide_true, if_true,
    List.filter_filter]
  congr 1
  refine List.filter_congr fun other _ => ?_
  simp

/-- What an order of owners and a view of their entries keep while owners are tended. That an owner
with a place and no entry stays without one is what keeps all places right. -/
structure IsArranged (change : Ref → Option Entry → Option Entry) (order : List Ref)
    (view : Ref → Option Entry) : Prop where
  owned : IsOwned view
  covered : ∀ owner, owner ∉ order → view owner = none
  emptied : ∀ owner, owner ∈ order → view owner = none → change owner none = none

theorem IsArranged.find?_eq (arranged : IsArranged change order view) :
    find? (order.filterMap view) = view := by
  funext owner
  rw [find?_filterMap arranged.owned]
  split
  · rfl
  · rename_i absent
    exact (arranged.covered owner absent).symm

/-- One more owner is tended; it has a place then. -/
theorem IsArranged.update (settling : IsSettling change) (arranged : IsArranged change order view)
    (owner : Ref) {more : List Ref} (wider : ∀ other, other ∈ more ↔ other = owner ∨ other ∈ order) :
    IsArranged change more (Function.update view owner (change owner (view owner))) where
  owned := arranged.owned.update (settling.owned owner (view owner) (arranged.owned owner))
  covered := by
    intro other absent
    obtain ⟨different, outside⟩ := not_or.1 (mt (wider other).2 absent)
    rw [Function.update_of_ne different]
    exact arranged.covered other outside
  emptied := by
    intro other member found
    by_cases same : other = owner
    · subst same
      rw [Function.update_self] at found
      rw [← found, settling.settled]
    · rw [Function.update_of_ne same] at found
      exact arranged.emptied other (((wider other).1 member).resolve_left same) found

theorem tended_cons (settling : IsSettling change) (owner : Ref) (rest : List Ref)
    (view : Ref → Option Entry) :
    tended change rest (Function.update view owner (change owner (view owner))) =
      tended change (owner :: rest) view := by
  funext other
  by_cases same : other = owner
  · subst same
    by_cases again : other ∈ rest <;> simp [tended, again, settling.settled]
  · simp [tended, same]

theorem tend_filterMap (settling : IsSettling change) (arranged : IsArranged change order view)
    (told : List Ref) :
    tend change told (order.filterMap view) =
      (order ++ newcomers order told).filterMap (tended change told view) := by
  induction told generalizing order view with
  | nil =>
      have untold : tended change [] view = view := funext fun owner => by simp [tended]
      simp [tend, newcomers, distinct, untold]
  | cons first rest inductionHypothesis =>
      have isOwner := settling.owned first (view first) (arranged.owned first)
      rw [tend, arranged.find?_eq, ← tended_cons settling]
      by_cases member : first ∈ order
      · have present : (change first (view first)).isSome → (view first).isSome := by
          intro left
          cases held : view first with
          | none =>
              rw [held, arranged.emptied first member held] at left
              cases left
          | some entry => rfl
        have next := arranged.update settling first fun other => by
          constructor
          · exact Or.inr
          · rintro (rfl | others)
            · exact member
            · exact others
        rw [place_filterMap_of_mem arranged.owned member isOwner present, inductionHypothesis next,
          newcomers_cons_of_mem order rest member]
      · have wider : ∀ other, other ∈ order ++ [first] ↔ other = first ∨ other ∈ order :=
          fun other => by simp [or_comm]
        have next := arranged.update settling first wider
        rw [place_filterMap_of_not_mem arranged.owned member isOwner, inductionHypothesis next,
          newcomers_cons_of_not_mem order rest member, List.append_assoc, List.singleton_append]

/-- Whoever was listed keeps its place, new owners follow in the order in which they were tended
first, and each of those tended has what the change makes of its entry. -/
theorem tend_eq (settling : IsSettling change) {listing : List Entry}
    (nodup : (owners listing).Nodup) (told : List Ref) :
    tend change told listing =
      (owners listing ++ newcomers (owners listing) told).filterMap
        (tended change told (find? listing)) := by
  have arranged : IsArranged change (owners listing) (find? listing) := by
    refine ⟨isOwned_find? listing, fun owner absent => ?_, ?_⟩
    · exact (find?_eq_none_iff listing owner).2 absent
    · intro owner present none
      exact absurd present ((find?_eq_none_iff listing owner).1 none)
  have whole := tend_filterMap settling arranged told
  rwa [filterMap_find? nodup] at whole

/-- Whoever is tended and is listed keeps its place; an owner that is left nothing loses it. -/
theorem tend_of_known (settling : IsSettling change) {listing : List Entry}
    (nodup : (owners listing).Nodup) (known : ∀ owner ∈ told, owner ∈ owners listing) :
    tend change told listing = listing.filterMap fun entry =>
      if entry.owner ∈ told then change entry.owner (some entry) else some entry := by
  have noNewcomers : newcomers (owners listing) told = [] := by
    refine List.filter_eq_nil_iff.2 fun owner member => ?_
    simpa using known owner ((mem_distinct_iff _ _).1 member)
  rw [tend_eq settling nodup, noNewcomers, List.append_nil, owners, List.filterMap_map]
  refine List.filterMap_congr fun entry member => ?_
  simp only [Function.comp_apply, tended, find?_of_mem nodup member]

/-- After owners were tended, each of them has what the change makes of its entry, and every other
owner has what it had. -/
theorem find?_tend (settling : IsSettling change) {listing : List Entry}
    (nodup : (owners listing).Nodup) (told : List Ref) :
    find? (tend change told listing) = tended change told (find? listing) := by
  have owned : IsOwned (tended change told (find? listing)) := by
    intro owner entry found
    unfold tended at found
    split at found
    · exact settling.owned owner _ (isOwned_find? listing owner) entry found
    · exact owner_of_find? found
  funext owner
  rw [tend_eq settling nodup, find?_filterMap owned]
  split
  · rfl
  · rename_i unplaced
    simp only [List.mem_append, newcomers, List.mem_filter, mem_distinct_iff, decide_eq_true_eq,
      not_or, not_and_not_right] at unplaced
    have untold : owner ∉ told := fun member => unplaced.1 (unplaced.2 member)
    rw [tended, if_neg untold, (find?_eq_none_iff listing owner).2 unplaced.1]

end ShadowIndex.Listing
