import ShadowIndex.Index.Search

/-!
Contract: work on the index that does not look at the trail.

Owns:
- `Index.IsBlind`, actions whose outcome and whose entries, locks and streams do not depend on what
  was written to the trail before;
- the parts from which blind actions are composed, and the batches and look-ups of a search, which
  are blind.

Does not own: what is written to the trail.
-/

set_option autoImplicit false

namespace ShadowIndex.Index

variable {α β : Type}

/-- Another trail beforehand makes no difference but to the trail afterwards. -/
def IsBlind (action : Action Index α) : Prop :=
  ∀ index trail, ∃ last,
    action { index with trail := trail } =
      ((action index).1, { (action index).2 with trail := last })

/-! ## Composition -/

theorem isBlind_pure (value : α) : IsBlind (pure value) := fun _ trail => ⟨trail, rfl⟩

theorem isBlind_fail (failure : Failure) : IsBlind (Action.fail failure : Action Index α) :=
  fun _ trail => ⟨trail, rfl⟩

theorem isBlind_lift (outcome : Except Failure α) : IsBlind (Action.lift outcome) :=
  fun _ trail => ⟨trail, rfl⟩

theorem isBlind_emit (event : Event) : IsBlind (emit event) :=
  fun _ trail => ⟨trail.record event, rfl⟩

theorem isBlind_note (note : Note) : IsBlind (Index.note note) := isBlind_emit _

theorem isBlind_change {update : Index → Index}
    (updates : ∀ index trail, update { index with trail := trail } =
      { update index with trail := trail }) : IsBlind (Action.change update) :=
  fun index trail => ⟨trail, Prod.ext rfl (updates index trail)⟩

theorem isBlind_query (look : Store → Except Failure α) : IsBlind (query look) :=
  fun _ trail => ⟨trail, rfl⟩

theorem isBlind_reading (action : Action Streams α) : IsBlind (reading action) :=
  fun _ trail => ⟨trail, rfl⟩

theorem isBlind_write (update : Store → Except Failure (α × Store)) : IsBlind (write update) := by
  intro index trail
  refine ⟨trail, ?_⟩
  simp only [write]
  cases update index.store <;> rfl

theorem IsBlind.bind {action : Action Index α} {next : α → Action Index β} (first : IsBlind action)
    (rest : ∀ value, IsBlind (next value)) : IsBlind (action >>= next) := by
  intro index trail
  obtain ⟨middle, same⟩ := first index trail
  rw [Action.bind_apply, Action.bind_apply, same]
  cases action index with
  | mk outcome after =>
      cases outcome with
      | error failure => exact ⟨middle, rfl⟩
      | ok value => exact rest value after middle

theorem isBlind_each {action : α → Action Index β} {items : List α}
    (blind : ∀ item, IsBlind (action item)) : IsBlind (Action.each action items) := by
  induction items with
  | nil => exact isBlind_pure []
  | cons item rest inductionHypothesis =>
      exact (blind item).bind fun value => inductionHypothesis.bind fun values =>
        isBlind_pure (value :: values)

theorem IsBlind.attempt {action : Action Index α} (blind : IsBlind action) :
    IsBlind action.attempt := by
  intro index trail
  obtain ⟨last, same⟩ := blind index trail
  exact ⟨last, by simp only [Action.attempt, same]⟩

theorem IsBlind.ensuring {action : Action Index α} {finish : Except Failure α → Index → Index}
    (blind : IsBlind action)
    (finishes : ∀ outcome index trail, ∃ last,
      finish outcome { index with trail := trail } = { finish outcome index with trail := last }) :
    IsBlind (action.ensuring finish) := by
  intro index trail
  obtain ⟨middle, same⟩ := blind index trail
  obtain ⟨last, finished⟩ := finishes (action index).1 (action index).2 middle
  exact ⟨last, by simp only [Action.ensuring, same, finished]⟩

theorem IsBlind.bound {work : Action Index α} (blind : IsBlind work)
    (fields : List (String × Value)) : IsBlind (bound fields work) :=
  (isBlind_emit _).bind fun _ => blind.ensuring fun _ _ _ => ⟨_, rfl⟩

theorem IsBlind.span {work : Action Index α} (blind : IsBlind work) (name : String)
    (attributes : List (String × Value)) : IsBlind (span name attributes work) :=
  (isBlind_emit _).bind fun _ => blind.ensuring fun outcome _ _ => by
    cases outcome with
    | ok value => exact ⟨_, rfl⟩
    | error failure => exact ⟨_, rfl⟩

theorem IsBlind.holding {work : Action Index α} (blind : IsBlind work) (entityType : String)
    (id : Value) : IsBlind (holding entityType id work) :=
  (isBlind_lift _).bind fun _ => (isBlind_change fun _ _ => rfl).bind fun _ =>
    blind.ensuring fun _ _ _ => ⟨_, rfl⟩

theorem isBlind_discardLock (entityType : String) (id : Value) :
    IsBlind (discardLock entityType id) :=
  (isBlind_lift _).bind fun _ => isBlind_change fun _ _ => rfl

/-! ## Rebuilds and look-ups -/

variable (catalog : Catalog) (host : Host) (entityType : String)

theorem isBlind_rebuild (id : Value) : IsBlind (rebuild catalog host entityType id) := by
  refine (isBlind_reading _).bind fun built? => ?_
  cases built? with
  | none =>
      exact (isBlind_write _).bind fun _ => (isBlind_note _).bind fun _ => isBlind_pure none
  | some entry =>
      exact (isBlind_write _).bind fun _ => (isBlind_emit _).bind fun _ => isBlind_pure (some entry)

theorem isBlind_reindexOne (id : Value) : IsBlind (reindexOne catalog host entityType id) := by
  refine ((isBlind_rebuild catalog host entityType id).holding entityType id).bind fun entry => ?_
  split
  · exact (isBlind_discardLock entityType id).bind fun _ => isBlind_pure entry
  · exact isBlind_pure entry

theorem isBlind_refreshHeld (id : Id) : IsBlind (refreshHeld catalog host entityType id) := by
  refine (isBlind_query _).bind fun held? => ?_
  split
  · exact isBlind_pure _
  · split
    · exact isBlind_pure _
    · refine (isBlind_rebuild catalog host entityType id.value).attempt.bind fun result => ?_
      split
      · exact isBlind_pure _
      · exact isBlind_pure _
      · split
        · exact (isBlind_note _).bind fun _ => (isBlind_emit _).bind fun _ => isBlind_pure _
        · exact isBlind_fail _

theorem isBlind_refresh (id : Id) : IsBlind (refresh catalog host entityType id) := by
  have held := isBlind_refreshHeld catalog host entityType id
  refine (held.holding entityType id.value).bind fun outcome => ?_
  split
  · exact (isBlind_discardLock entityType id.value).bind fun _ => isBlind_pure _
  · exact isBlind_pure _

theorem isBlind_reindexAll : IsBlind (reindexAll catalog host entityType) := by
  have batch : IsBlind (refreshAll catalog host entityType) :=
    (isBlind_query _).bind fun stale =>
      (isBlind_each (isBlind_refresh catalog host entityType)).bind fun members =>
        (isBlind_emit _).bind fun _ => (isBlind_emit _).bind fun _ => isBlind_pure _
  refine ((batch.span _ _).bound _).bind fun report => ?_
  split
  · exact (isBlind_note _).bind fun _ => isBlind_pure report
  · exact isBlind_pure report

theorem isBlind_freshEntry (id : Value) : IsBlind (freshEntry catalog host entityType id) := by
  refine (isBlind_query _).bind fun stored => ?_
  split
  · exact isBlind_pure _
  · split
    · exact isBlind_pure none
    · refine (isBlind_reindexOne catalog host entityType id).attempt.bind fun result => ?_
      split
      · exact isBlind_pure _
      · split
        · exact (isBlind_note _).bind fun _ => isBlind_pure none
        · exact isBlind_fail _

end ShadowIndex.Index
