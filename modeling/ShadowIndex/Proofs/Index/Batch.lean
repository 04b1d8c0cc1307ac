import Mathlib.Data.List.Forall2
import ShadowIndex.Proofs.Index.Rebuild

/-!
Contract: what work on many records of one type does to their entries.

Owns:
- `Index.tending`, entries after each of some records was tended in the same way;
- `Index.Runs.each_inv`, the law of a repetition whose steps tend one record each;
- `Index.reindexAll_inv`: a batch rebuilds exactly the stale entries of its type.

Does not own: which records a search looks at.
-/

set_option autoImplicit false

namespace ShadowIndex.Index

/-- Entries after a change of those of some records of a type. -/
def tending (entityType : String) (ids : List Id) (change : Ref → Option Entry → Option Entry)
    (view : Ref → Option Entry) : Ref → Option Entry := fun owner =>
  if owner.entityType = entityType ∧ owner.id ∈ ids then change owner (view owner) else view owner

theorem tending_nil (entityType : String) (change : Ref → Option Entry → Option Entry)
    (view : Ref → Option Entry) : tending entityType [] change view = view := by
  funext owner
  simp [tending]

/-- To tend a record again changes nothing, so repetitions in a list do not matter. -/
theorem tending_cons {entityType : String} {change : Ref → Option Entry → Option Entry}
    (idempotent : ∀ owner held, change owner (change owner held) = change owner held)
    (id : Id) (rest : List Id) (view : Ref → Option Entry) :
    tending entityType rest change (Function.update view ⟨entityType, id⟩
      (change ⟨entityType, id⟩ (view ⟨entityType, id⟩))) =
      tending entityType (id :: rest) change view := by
  funext owner
  obtain ⟨ownerType, ownerId⟩ := owner
  by_cases same : (⟨ownerType, ownerId⟩ : Ref) = ⟨entityType, id⟩
  · cases same
    by_cases again : id ∈ rest
    · simp [tending, again, idempotent]
    · simp [tending, again]
  · have other : ownerType = entityType → ownerId ≠ id := by
      rintro rfl rfl
      exact same rfl
    simp only [tending, Function.update_of_ne same, List.mem_cons]
    by_cases isType : ownerType = entityType
    · simp [isType, other isType]
    · simp [isType]

/-- A repetition over ids whose steps tend one record each. What a step gives may be read off the
entries before the repetition; `Ends` is what lets a step fail. -/
theorem Runs.each_inv {β : Type} {action : Id → Action Index β} {entityType : String}
    (change : Ref → Option Entry → Option Entry) (Gives : Id → Option Entry → β → Prop)
    (Ends : Failure → Prop) {ids : List Id} {before after : Store}
    {outcome : Except Failure (List β)}
    (idempotent : ∀ owner held, change owner (change owner held) = change owner held)
    (steady : ∀ id held value, Gives id (change ⟨entityType, id⟩ held) value →
      Gives id held value)
    (step : ∀ id ∈ ids, ∀ {start finish : Store} {result : Except Failure β},
      start.kind = before.kind → Runs (action id) start result finish →
      (∃ failure, result = .error failure ∧ Ends failure) ∨
        (∃ value, result = .ok value ∧ Gives id (start.find? ⟨entityType, id⟩) value) ∧
          start.Becomes (Function.update start.find? ⟨entityType, id⟩
            (change ⟨entityType, id⟩ (start.find? ⟨entityType, id⟩))) finish)
    (runs : Runs (Action.each action ids) before outcome after) :
    (∃ failure, outcome = .error failure ∧ Ends failure) ∨
      (∃ values, outcome = .ok values ∧
        List.Forall₂ (fun id value => Gives id (before.find? ⟨entityType, id⟩) value) ids values) ∧
        before.Becomes (tending entityType ids change before.find?) after := by
  induction ids generalizing before outcome with
  | nil =>
      obtain ⟨rfl, rfl⟩ := runs.each_nil_inv
      exact Or.inr ⟨⟨[], rfl, .nil⟩, rfl, (tending_nil _ _ _).symm⟩
  | cons id rest inductionHypothesis =>
      rcases runs.each_cons_inv with ⟨value, middle, first, others⟩ | ⟨failure, rfl, failed⟩
      · rcases step id (by simp) rfl first with ⟨failure, impossible, -⟩ | ⟨gave, becomes⟩
        · cases impossible
        obtain ⟨given, same, gives⟩ := gave
        cases same
        have later : ∀ other ∈ rest, ∀ {start finish : Store} {result : Except Failure β},
            start.kind = middle.kind → Runs (action other) start result finish → _ :=
          fun other member {_ _ _} sameKind =>
            step other (by simp [member]) (sameKind.trans becomes.kind)
        have fromStart : ∀ other found, Gives other (middle.find? ⟨entityType, other⟩) found →
            Gives other (before.find? ⟨entityType, other⟩) found := by
          intro other found givesNow
          rw [becomes.found] at givesNow
          by_cases isFirst : other = id
          · subst isFirst
            rw [Function.update_self] at givesNow
            exact steady other _ found givesNow
          · rwa [Function.update_of_ne (by simpa using isFirst)] at givesNow
        rcases others with ⟨values, rfl, ran⟩ | ⟨failure, rfl, ran⟩
        · rcases inductionHypothesis later ran with ⟨failure, impossible, -⟩ | ⟨found, tended⟩
          · cases impossible
          obtain ⟨listed, same, all⟩ := found
          cases same
          refine Or.inr
            ⟨⟨_, rfl, .cons gives (all.imp fun {other found} => fromStart other found)⟩,
              tended.kind.trans becomes.kind, ?_⟩
          rw [tended.found, becomes.found, tending_cons idempotent]
        · rcases inductionHypothesis later ran with ended | ⟨⟨values, impossible, -⟩, -⟩
          · exact Or.inl ended
          · cases impossible
      · rcases step id (by simp) rfl failed with ended | ⟨⟨value, impossible, -⟩, -⟩
        · obtain ⟨same, isSame, ends⟩ := ended
          cases isSame
          exact Or.inl ⟨failure, rfl, ends⟩
        · cases impossible

/-! ## Batches -/

variable {catalog : Catalog} {host : Host} {entityType : String} {before after : Store}

/-- A build of some record of a type fails in a way that ends the program. -/
def EndsIn (catalog : Catalog) (host : Host) (entityType : String) (failure : Failure) : Prop :=
  failure.isEnding = true ∧ ∃ id, catalog.live host ⟨entityType, id⟩ = .error failure

theorem fresh_of_live {owner : Ref} {entry : Entry}
    (built : catalog.live host owner = .ok (some entry)) : entry.content.stale = false := by
  have builds : catalog.Builds host owner entry := ⟨.none, built⟩
  exact builds.fresh

theorem owner_of_live {owner : Ref} {entry : Entry}
    (built : catalog.live host owner = .ok (some entry)) : entry.owner = owner := by
  have builds : catalog.Builds host owner entry := ⟨.none, built⟩
  exact builds.owner_eq

/-- A rebuild leaves an owner an entry of its own. -/
theorem owner_of_afterRebuild {owner : Ref} {held : Option Entry}
    (isOwner : ∀ entry, held = some entry → entry.owner = owner) :
    ∀ entry, afterRebuild (catalog.live host owner) held = some entry → entry.owner = owner := by
  intro entry left
  cases built : catalog.live host owner with
  | ok rebuilt? =>
      simp only [built, afterRebuild] at left
      exact owner_of_live (left ▸ built)
  | error failure =>
      simp only [built, afterRebuild] at left
      exact isOwner entry left

theorem refreshed_idempotent (catalog : Catalog) (host : Host) (owner : Ref)
    (held : Option Entry) :
    refreshed (catalog.live host owner) (refreshed (catalog.live host owner) held) =
      refreshed (catalog.live host owner) held := by
  by_cases stale : held.any (fun entry => entry.content.stale) = true
  · cases built : catalog.live host owner with
    | error failure => simp [refreshed, afterRebuild, stale]
    | ok rebuilt? =>
        cases rebuilt? with
        | none => simp [refreshed, afterRebuild, stale]
        | some entry => simp [refreshed, afterRebuild, stale, fresh_of_live built]
  · have settled := refreshed_of_not_stale (by simpa using stale) (catalog.live host owner)
    rw [settled, settled]

theorem refresh_steady_inv (steady : catalog.IsSteady host entityType)
    (opened : before.requireOpen = .ok ()) {id : Id} (accepts : before.Accepts id)
    {outcome : Except Failure (Id × Outcome)}
    (runs : Runs (refresh catalog host entityType id) before outcome after) :
    (∃ failure, outcome = .error failure ∧ EndsIn catalog host entityType failure) ∨
      (∃ value, outcome = .ok value ∧ True) ∧
        before.Becomes (Function.update before.find? ⟨entityType, id⟩
          (refreshed (catalog.live host ⟨entityType, id⟩) (before.find? ⟨entityType, id⟩)))
          after := by
  obtain ⟨result, ⟨streams, built⟩, placed, known⟩ := refresh_inv opened accepts runs
  rcases memberOutcome_cases result (before.find? ⟨entityType, id⟩) with
    ⟨gives, -⟩ | ⟨failure, fails, rfl, unhandled⟩
  · rw [Catalog.liveEntry_eq_live steady] at built
    subst built
    exact Or.inr ⟨⟨_, by rw [known, gives]; rfl, trivial⟩, placed.toBecomes⟩
  · have ending := Catalog.isEnding_of_liveEntry built.symm unhandled
    rw [Catalog.liveEntry_eq_live steady] at built
    exact Or.inl ⟨failure, by rw [known, fails]; rfl, ending, id, built.symm⟩

/-- A batch repeats its work on the stale entries of its type, and reports what became of each. -/
theorem refreshAll_members_inv {listed : List Entry}
    (listing : before.allStaleFor entityType = .ok listed) {outcome : Except Failure Report}
    (runs : Runs (refreshAll catalog host entityType) before outcome after) :
    ∃ ran, Runs (Action.each (refresh catalog host entityType)
        (listed.map fun entry => entry.owner.id)) before ran after ∧
      outcome = ran.map (reportOf entityType) := by
  rcases runs.bind_inv with ⟨found, start, looked, rest⟩ | ⟨failure, -, looked⟩
  · obtain ⟨same, rfl⟩ := looked.query_inv
    rw [listing] at same
    cases same
    rcases rest.bind_inv with ⟨members, middle, ran, rest⟩ | ⟨failure, rfl, ran⟩
    · obtain ⟨rfl, rfl⟩ :=
        ((rest.bind_quiet_inv Runs.emit_inv).bind_quiet_inv Runs.emit_inv).pure_inv
      exact ⟨_, ran, rfl⟩
    · exact ⟨_, ran, rfl⟩
  · obtain ⟨same, -⟩ := looked.query_inv
    rw [listing] at same
    cases same

/-- What stands around a batch changes neither its outcome nor the store. -/
theorem refreshAll_of_reindexAll {outcome : Except Failure Report}
    (runs : Runs (reindexAll catalog host entityType) before outcome after) :
    Runs (refreshAll catalog host entityType) before outcome after := by
  rcases runs.bind_inv with ⟨report, middle, batch, rest⟩ | ⟨failure, rfl, batch⟩
  · have finished : outcome = .ok report ∧ after = middle := by
      split at rest
      · exact (rest.bind_quiet_inv Runs.note_inv).pure_inv
      · exact rest.pure_inv
    obtain ⟨rfl, rfl⟩ := finished
    exact batch.bound_inv.span_inv
  · exact batch.bound_inv.span_inv

theorem refreshAll_inv (steady : catalog.IsSteady host entityType)
    (opened : before.requireOpen = .ok ())
    (accepts : ∀ id, (before.find? ⟨entityType, id⟩).isSome → before.Accepts id)
    {outcome : Except Failure Report}
    (runs : Runs (refreshAll catalog host entityType) before outcome after) :
    (∃ failure, outcome = .error failure ∧ EndsIn catalog host entityType failure) ∨
      (∃ report, outcome = .ok report) ∧
        before.Becomes (fun owner =>
          if owner.entityType = entityType then
            refreshed (catalog.live host owner) (before.find? owner)
          else before.find? owner) after := by
  obtain ⟨listed, listing, isMember⟩ := Store.allStaleFor_eq_ok opened entityType
  obtain ⟨members, ran, rfl⟩ := refreshAll_members_inv listing runs
  have batch := ran.each_inv (fun owner => refreshed (catalog.live host owner))
    (fun _ _ _ => True) (EndsIn catalog host entityType) (refreshed_idempotent catalog host)
    (fun _ _ _ _ => trivial)
    (fun id member {_ _ _} sameKind step =>
      have held : (before.find? ⟨entityType, id⟩).isSome := by
        obtain ⟨entry, found, -⟩ := (Option.any_eq_true _ _).1 ((isMember id).1 member)
        simp [found]
      refresh_steady_inv steady ((Store.requireOpen_of_kind sameKind).trans opened)
        (Store.accepts_of_kind sameKind (accepts id held)) step)
  rcases batch with ⟨failure, rfl, ends⟩ | ⟨⟨values, rfl, -⟩, becomes⟩
  · exact Or.inl ⟨failure, rfl, ends⟩
  · refine Or.inr ⟨⟨_, rfl⟩, becomes.kind, ?_⟩
    rw [becomes.found]
    funext owner
    obtain ⟨ownerType, id⟩ := owner
    by_cases isType : ownerType = entityType
    · subst isType
      by_cases stale : (before.find? ⟨ownerType, id⟩).any (fun entry => entry.content.stale) = true
      · simp only [tending, true_and, (isMember id).2 stale, if_true]
      · have notMember := mt (isMember id).1 stale
        simp only [tending, true_and, notMember, if_false, if_true]
        rw [refreshed_of_not_stale (by simpa using stale)]
    · simp only [tending, isType, false_and, if_false]

/-- A batch rebuilds exactly the stale entries of its type, unless a build ends the program. -/
theorem reindexAll_inv (steady : catalog.IsSteady host entityType)
    (opened : before.requireOpen = .ok ())
    (accepts : ∀ id, (before.find? ⟨entityType, id⟩).isSome → before.Accepts id)
    {outcome : Except Failure Report}
    (runs : Runs (reindexAll catalog host entityType) before outcome after) :
    (∃ failure, outcome = .error failure ∧ EndsIn catalog host entityType failure) ∨
      (∃ report, outcome = .ok report) ∧
        before.Becomes (fun owner =>
          if owner.entityType = entityType then
            refreshed (catalog.live host owner) (before.find? owner)
          else before.find? owner) after :=
  refreshAll_inv steady opened accepts (refreshAll_of_reindexAll runs)

end ShadowIndex.Index
