import ShadowIndex.Proofs.Index.Sweeping

/-!
Contract: what flagging the entries of a type does to entries and counters.

Owns:
- `Event.total`, what events add to a counter, and a counter after more events;
- `Index.LeavesTrail`, actions that write nothing to the trail, and how they are composed;
- `Index.markType_flags`: every entry of the type is stale where it stands, and their number is
  counted once.

Does not own: what makes the fields of a type change.
-/

set_option autoImplicit false

namespace ShadowIndex

/-- What events add to a counter. -/
def Event.total (counter : Counter) (events : List Event) : Nat :=
  (events.map (Event.amount counter)).foldr (· + ·) 0

theorem Event.total_append (counter : Counter) (events more : List Event) :
    Event.total counter (events ++ more) =
      Event.total counter events + Event.total counter more := by
  induction events with
  | nil => simp [Event.total]
  | cons event rest inductionHypothesis =>
      simp only [Event.total, List.cons_append, List.map_cons, List.foldr_cons]
        at inductionHypothesis ⊢
      rw [inductionHypothesis, Nat.add_assoc]

theorem Trail.total_of_append {before after : Trail} {events : List Event}
    (written : after.events = before.events ++ events) (counter : Counter) :
    after.total counter = before.total counter + Event.total counter events := by
  show Event.total counter after.events = Event.total counter before.events + _
  rw [written, Event.total_append]

theorem Trail.total_record (trail : Trail) (event : Event) (counter : Counter) :
    (trail.record event).total counter = trail.total counter + event.amount counter :=
  total_of_append (events_record trail event) counter

namespace Index

variable {α β : Type}

/-! ## Actions without a trail -/

/-- The trail is the same after an action. -/
def LeavesTrail (action : Action Index α) : Prop :=
  ∀ index, (action index).2.trail = index.trail

theorem leavesTrail_lift (outcome : Except Failure α) : LeavesTrail (Action.lift outcome) :=
  fun _ => rfl

theorem leavesTrail_write (update : Store → Except Failure (α × Store)) :
    LeavesTrail (write update) := by
  intro index
  unfold write
  split <;> rfl

theorem LeavesTrail.bind {action : Action Index α} {next : α → Action Index β}
    (first : LeavesTrail action) (rest : ∀ value, LeavesTrail (next value)) :
    LeavesTrail (action >>= next) := by
  intro index
  have same := first index
  rw [Action.bind_apply]
  cases ran : action index with
  | mk outcome middle =>
      rw [ran] at same
      cases outcome with
      | error failure => exact same
      | ok value => exact (rest value middle).trans same

theorem leavesTrail_each {action : α → Action Index β} (leaves : ∀ item, LeavesTrail (action item))
    (items : List α) : LeavesTrail (Action.each action items) := by
  induction items with
  | nil => exact fun _ => rfl
  | cons item rest inductionHypothesis =>
      exact (leaves item).bind fun value => inductionHypothesis.bind fun values _ => rfl

theorem LeavesTrail.holding {work : Action Index α} (leaves : LeavesTrail work)
    (entityType : String) (id : Value) : LeavesTrail (holding entityType id work) := by
  refine (leavesTrail_lift id.key).bind fun key => ?_
  refine LeavesTrail.bind (fun _ => rfl) fun _ index => ?_
  exact leaves index

theorem leavesTrail_markOne (entityType : String) (id : Id) :
    LeavesTrail (markOne entityType id) :=
  (leavesTrail_write _).holding entityType id.value

/-! ## Flags -/

/-- The counter of entries of a type that are stale since its fields changed. -/
def syntaxMarks (entityType : String) : Counter :=
  ⟨.staleMarks, [("cause", "syntax"), ("entity_type", entityType)]⟩

theorem amount_syntaxMarks (entityType : String) (marked : Nat) (counter : Counter) :
    (Event.count .staleMarks [("cause", "syntax"), ("entity_type", entityType)] marked).amount
        counter = if counter = syntaxMarks entityType then marked else 0 := by
  by_cases same : counter = syntaxMarks entityType
  · rw [if_pos same, same]
    exact if_pos rfl
  · rw [if_neg same]
    exact if_neg fun isCounter => same isCounter.symm

/-- Every entry of a type is flagged where it stands, and the counter grows by their number. -/
theorem markType_flags (entityType : String) (index : Index) (ordered : index.store.IsOrdered)
    (serves : index.store.Serves fun id => (index.store.find? ⟨entityType, id⟩).isSome = true) :
    (markType entityType index).1 = .ok () ∧
      (markType entityType index).2.store.kind = index.store.kind ∧
      (markType entityType index).2.store.Lists
        (Listing.flagType entityType index.store.entries) ∧
      ∀ counter, (markType entityType index).2.trail.total counter = index.trail.total counter +
        if counter = syntaxMarks entityType then
          (Listing.ownerIds entityType index.store.entries).length
        else 0 := by
  have lists : index.store.Lists index.store.entries := ⟨ordered, rfl⟩
  have nodup := lists.owners_nodup
  have looked : (query fun store => store.ownerIds entityType) index =
      (.ok (Listing.ownerIds entityType index.store.entries), index) := by
    rw [query, lists.ownerIds_eq serves.opened]
  have marking := (runs_self (Action.each (markOne entityType)
      (Listing.ownerIds entityType index.store.entries)) index).sweep_inv
    (fun _ held => held.map Entry.asStale) (fun _ held => held.isSome)
    (Listing.nodup_ownerIds nodup) fun id member {start finish result} sameKind step =>
      have known := serves.accepts id (lists.mem_ownerIds_iff.1 member)
      markStale_inv ((Store.requireOpen_of_kind sameKind).trans serves.opened)
        (Store.accepts_of_kind sameKind known) step.holding_inv
  have noted := leavesTrail_each (leavesTrail_markOne entityType)
    (Listing.ownerIds entityType index.store.entries) index
  rw [markType, Action.bind_apply, looked]
  dsimp only
  rw [Action.bind_apply]
  cases ran : Action.each (markOne entityType)
      (Listing.ownerIds entityType index.store.entries) index with
  | mk outcome middle =>
      rw [ran] at marking noted
      obtain ⟨rfl, kind, leaves⟩ := marking
      have flagged := leaves _ lists
      rw [Listing.tend_flags nodup] at flagged
      -- Every owner that is looked at has an entry, so that every one counts.
      have marked : ((Listing.ownerIds entityType index.store.entries).map fun id =>
          (index.store.find? ⟨entityType, id⟩).isSome).filter id =
            (Listing.ownerIds entityType index.store.entries).map fun id =>
              (index.store.find? ⟨entityType, id⟩).isSome := by
        refine List.filter_eq_self.2 fun mark member => ?_
        obtain ⟨id, listed, rfl⟩ := List.mem_map.1 member
        exact lists.mem_ownerIds_iff.1 listed
      replace noted : middle.trail = index.trail := noted
      simp only [marked, List.length_map]
      cases number : (Listing.ownerIds entityType index.store.entries).length with
      | zero =>
          refine ⟨rfl, kind, flagged, fun counter => ?_⟩
          rw [ite_self, Nat.add_zero, ← noted]
          rfl
      | succ more =>
          refine ⟨rfl, kind, flagged, fun counter => ?_⟩
          rw [← amount_syntaxMarks, ← noted, ← Trail.total_record]
          exact Trail.total_record _ _ _

end Index

end ShadowIndex
