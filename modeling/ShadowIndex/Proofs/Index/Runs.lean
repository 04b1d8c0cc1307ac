import ShadowIndex.Index.Action

/-!
Contract: what actions on the index do to its store.

Owns:
- `Runs`, an outcome of an action and the store before and after it, whatever else the index holds;
- inversion: a run of a composed action splits into runs of its parts, and brackets, notes and
  locks leave the store alone.

Does not own: which entries the parts write.
-/

set_option autoImplicit false

namespace ShadowIndex.Index

variable {α β : Type}

/-- An action on an index with the store `before` can have this outcome and leave the store
`after`. Locks, trail and streams are left open. -/
def Runs (action : Action Index α) (before : Store) (outcome : Except Failure α)
    (after : Store) : Prop :=
  ∃ index, index.store = before ∧ (action index).1 = outcome ∧ (action index).2.store = after

theorem runs_self (action : Action Index α) (index : Index) :
    Runs action index.store (action index).1 (action index).2.store :=
  ⟨index, rfl, rfl, rfl⟩

theorem each_map {α β γ : Type} (action : β → Action Index γ) (change : α → β) (items : List α) :
    Action.each action (items.map change) = Action.each (fun item => action (change item)) items := by
  induction items with
  | nil => rfl
  | cons item rest inductionHypothesis =>
      simp only [List.map_cons, Action.each, inductionHypothesis]

namespace Runs

variable {before after : Store}

/-! ## Sequences -/

theorem pure_inv {value : α} {outcome : Except Failure α}
    (runs : Runs (pure value) before outcome after) : outcome = .ok value ∧ after = before := by
  obtain ⟨index, rfl, rfl, rfl⟩ := runs
  exact ⟨rfl, rfl⟩

theorem fail_inv {failure : Failure} {outcome : Except Failure α}
    (runs : Runs (Action.fail failure) before outcome after) :
    outcome = .error failure ∧ after = before := by
  obtain ⟨index, rfl, rfl, rfl⟩ := runs
  exact ⟨rfl, rfl⟩

theorem lift_inv {given outcome : Except Failure α}
    (runs : Runs (Action.lift given) before outcome after) :
    outcome = given ∧ after = before := by
  obtain ⟨index, rfl, rfl, rfl⟩ := runs
  exact ⟨rfl, rfl⟩

/-- A sequence fails in its first part, or runs both. -/
theorem bind_inv {action : Action Index α} {next : α → Action Index β}
    {outcome : Except Failure β} (runs : Runs (action >>= next) before outcome after) :
    (∃ value middle, Runs action before (.ok value) middle ∧
      Runs (next value) middle outcome after) ∨
    ∃ failure, outcome = .error failure ∧ Runs action before (.error failure) after := by
  obtain ⟨index, rfl, rfl, rfl⟩ := runs
  rw [Action.bind_apply]
  cases first : action index with
  | mk result middle =>
      cases result with
      | ok value => exact Or.inl ⟨value, middle.store, ⟨index, rfl, by simp [first]⟩, middle, rfl, rfl, rfl⟩
      | error failure => exact Or.inr ⟨failure, rfl, index, rfl, by simp [first]⟩

/-- A sequence whose first part always succeeds and leaves the store alone. -/
theorem bind_quiet_inv {action : Action Index α} {next : α → Action Index β} {value : α}
    {outcome : Except Failure β} (runs : Runs (action >>= next) before outcome after)
    (quiet : ∀ {before after : Store} {outcome : Except Failure α},
      Runs action before outcome after → outcome = .ok value ∧ after = before) :
    Runs (next value) before outcome after := by
  rcases runs.bind_inv with ⟨found, middle, first, rest⟩ | ⟨failure, -, first⟩
  · obtain ⟨same, rfl⟩ := quiet first
    cases same
    exact rest
  · exact absurd (quiet first).1 (by simp)

theorem each_nil_inv {action : α → Action Index β} {outcome : Except Failure (List β)}
    (runs : Runs (Action.each action []) before outcome after) :
    outcome = .ok [] ∧ after = before := pure_inv runs

/-- A repetition fails at its first member, at a later one, or nowhere. -/
theorem each_cons_inv {action : α → Action Index β} {item : α} {rest : List α}
    {outcome : Except Failure (List β)}
    (runs : Runs (Action.each action (item :: rest)) before outcome after) :
    (∃ value middle, Runs (action item) before (.ok value) middle ∧
      ((∃ values, outcome = .ok (value :: values) ∧
          Runs (Action.each action rest) middle (.ok values) after) ∨
        ∃ failure, outcome = .error failure ∧
          Runs (Action.each action rest) middle (.error failure) after)) ∨
    ∃ failure, outcome = .error failure ∧ Runs (action item) before (.error failure) after := by
  rcases runs.bind_inv with ⟨value, middle, first, others⟩ | failed
  · refine Or.inl ⟨value, middle, first, ?_⟩
    rcases others.bind_inv with ⟨values, last, second, finish⟩ | failed
    · obtain ⟨rfl, rfl⟩ := finish.pure_inv
      exact Or.inl ⟨values, rfl, second⟩
    · exact Or.inr failed
  · exact Or.inr failed

/-- A repetition of work that writes nothing writes nothing. -/
theorem each_quiet_inv {action : α → Action Index β} {items : List α}
    {outcome : Except Failure (List β)}
    (quiet : ∀ item ∈ items, ∀ {start finish : Store} {result : Except Failure β},
      Runs (action item) start result finish → finish = start)
    (runs : Runs (Action.each action items) before outcome after) : after = before := by
  induction items generalizing before outcome with
  | nil => exact runs.each_nil_inv.2
  | cons item rest inductionHypothesis =>
      have later := fun other (member : other ∈ rest) {start finish : Store}
        {result : Except Failure β} => @quiet other (List.mem_cons_of_mem _ member) start finish result
      rcases runs.each_cons_inv with ⟨value, middle, first, others⟩ | ⟨failure, -, first⟩
      · have same := quiet item List.mem_cons_self first
        rcases others with ⟨values, -, ran⟩ | ⟨failure, -, ran⟩
        · exact (inductionHypothesis later ran).trans same
        · exact (inductionHypothesis later ran).trans same
      · exact quiet item List.mem_cons_self first

/-- A repetition of work that never fails and writes nothing. -/
theorem each_calm_inv {action : α → Action Index β} {items : List α}
    {outcome : Except Failure (List β)}
    (calm : ∀ item {start finish : Store} {result : Except Failure β},
      Runs (action item) start result finish → (∃ value, result = .ok value) ∧ finish = start)
    (runs : Runs (Action.each action items) before outcome after) :
    (∃ values, outcome = .ok values) ∧ after = before := by
  refine ⟨?_, runs.each_quiet_inv fun item _ {_ _ _} step => (calm item step).2⟩
  induction items generalizing before outcome with
  | nil => exact ⟨[], runs.each_nil_inv.1⟩
  | cons item rest inductionHypothesis =>
      rcases runs.each_cons_inv with ⟨value, middle, -, others⟩ | ⟨failure, -, first⟩
      · rcases others with ⟨values, whole, -⟩ | ⟨failure, -, ran⟩
        · exact ⟨value :: values, whole⟩
        · obtain ⟨values, impossible⟩ := inductionHypothesis ran
          cases impossible
      · obtain ⟨⟨value, impossible⟩, -⟩ := calm item first
        cases impossible

theorem attempt_inv {action : Action Index α} {outcome : Except Failure (Except Failure α)}
    (runs : Runs action.attempt before outcome after) :
    ∃ inner, outcome = .ok inner ∧ Runs action before inner after := by
  obtain ⟨index, rfl, rfl, rfl⟩ := runs
  exact ⟨_, rfl, runs_self action index⟩

theorem change_inv {update : Index → Index} (keeps : ∀ index, (update index).store = index.store)
    {outcome : Except Failure Unit} (runs : Runs (Action.change update) before outcome after) :
    outcome = .ok () ∧ after = before := by
  obtain ⟨index, rfl, rfl, rfl⟩ := runs
  exact ⟨rfl, keeps index⟩

theorem ensuring_inv {action : Action Index α} {finish : Except Failure α → Index → Index}
    (keeps : ∀ outcome index, (finish outcome index).store = index.store)
    {outcome : Except Failure α} (runs : Runs (action.ensuring finish) before outcome after) :
    Runs action before outcome after := by
  obtain ⟨index, rfl, rfl, rfl⟩ := runs
  exact ⟨index, rfl, rfl, (keeps _ _).symm⟩

/-! ## Notes and brackets -/

theorem emit_inv {event : Event} {outcome : Except Failure Unit}
    (runs : Runs (emit event) before outcome after) : outcome = .ok () ∧ after = before :=
  change_inv (fun _ => rfl) runs

theorem note_inv {note : Note} {outcome : Except Failure Unit}
    (runs : Runs (Index.note note) before outcome after) : outcome = .ok () ∧ after = before :=
  emit_inv runs

theorem count_inv {metric : Metric} {labels : List (String × String)} {amount : Nat}
    {outcome : Except Failure Unit} (runs : Runs (count metric labels amount) before outcome after) :
    outcome = .ok () ∧ after = before :=
  emit_inv runs

theorem bound_inv {fields : List (String × Value)} {work : Action Index α}
    {outcome : Except Failure α} (runs : Runs (bound fields work) before outcome after) :
    Runs work before outcome after :=
  (runs.bind_quiet_inv emit_inv).ensuring_inv fun _ _ => rfl

theorem span_inv {name : String} {attributes : List (String × Value)} {work : Action Index α}
    {outcome : Except Failure α} (runs : Runs (span name attributes work) before outcome after) :
    Runs work before outcome after :=
  (runs.bind_quiet_inv emit_inv).ensuring_inv fun outcome _ => by cases outcome <;> rfl

theorem timed_inv {labels : List (String × String)} {work : Action Index α}
    {outcome : Except Failure α} (runs : Runs (timed labels work) before outcome after) :
    Runs work before outcome after :=
  runs.ensuring_inv fun _ _ => rfl

/-! ## Locks -/

theorem key_inv {id : Id} {outcome : Except Failure Key}
    (runs : Runs (Action.lift id.value.key) before outcome after) :
    outcome = .ok id.key ∧ after = before := by
  rw [Value.key_value] at runs
  exact runs.lift_inv

theorem holding_inv {entityType : String} {id : Id} {work : Action Index α}
    {outcome : Except Failure α} (runs : Runs (holding entityType id.value work) before outcome after) :
    Runs work before outcome after := by
  have entered := runs.bind_quiet_inv key_inv
  have held := entered.bind_quiet_inv (change_inv fun _ => rfl)
  exact held.ensuring_inv fun _ _ => rfl

theorem discardLock_inv {entityType : String} {id : Id} {outcome : Except Failure Unit}
    (runs : Runs (discardLock entityType id.value) before outcome after) :
    outcome = .ok () ∧ after = before :=
  (runs.bind_quiet_inv key_inv).change_inv fun _ => rfl

/-! ## Reads and writes -/

theorem reading_inv {action : Action Streams α} {outcome : Except Failure α}
    (runs : Runs (reading action) before outcome after) :
    (∃ streams, outcome = (action streams).1) ∧ after = before := by
  obtain ⟨index, rfl, rfl, rfl⟩ := runs
  exact ⟨⟨index.streams, rfl⟩, rfl⟩

theorem query_inv {look : Store → Except Failure α} {outcome : Except Failure α}
    (runs : Runs (query look) before outcome after) : outcome = look before ∧ after = before := by
  obtain ⟨index, rfl, rfl, rfl⟩ := runs
  exact ⟨rfl, rfl⟩

/-- A write that succeeds replaces the store; one that fails leaves it alone. -/
theorem write_inv {update : Store → Except Failure (α × Store)} {outcome : Except Failure α}
    (runs : Runs (write update) before outcome after) :
    (∃ value, update before = .ok (value, after) ∧ outcome = .ok value) ∨
    ∃ failure, update before = .error failure ∧ outcome = .error failure ∧ after = before := by
  obtain ⟨index, rfl, rfl, rfl⟩ := runs
  unfold write
  cases written : update index.store with
  | ok result => exact Or.inl ⟨result.1, rfl, rfl⟩
  | error failure => exact Or.inr ⟨failure, rfl, rfl, rfl⟩

theorem write_ok_inv {update : Store → Except Failure (α × Store)} {value : α} {store : Store}
    (done : update before = .ok (value, store)) {outcome : Except Failure α}
    (runs : Runs (write update) before outcome after) : outcome = .ok value ∧ after = store := by
  rcases runs.write_inv with ⟨given, written, rfl⟩ | ⟨failure, written, -, -⟩
  · rw [done] at written
    cases written
    exact ⟨rfl, rfl⟩
  · rw [done] at written
    cases written

end Runs

end ShadowIndex.Index
