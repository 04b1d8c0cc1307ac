import ShadowIndex.Schema.SearchTexts

/-!
Contract: search texts that do not depend on what was read before.

Owns:
- `Value.IsSteady`, values that read as they are written each time;
- `Action.IsIndifferent`, actions whose outcome does not depend on the state, and `Action.Yields`, the
  outcome that they have;
- `Registry.IsSteadyFor`: where every field of a record gives steady values, its texts are the same
  whenever they are built.

Does not own: which extractors give steady values.
-/

set_option autoImplicit false

namespace ShadowIndex

/-! ## Steady values -/

/-- A value that reads as it is written, whichever streams were read before. -/
def Value.IsSteady (value : Value) : Prop :=
  ∀ streams, (value.draw streams).1.fragments = value.fragments

namespace Value

theorem isSteady_of_solid {value : Value} (solid : value.readsStream = false) :
    value.IsSteady := by
  intro streams
  rw [draw_eq_self value streams solid]

theorem fragments_drawAll {items : List Value} (steady : ∀ item ∈ items, item.IsSteady)
    (streams : Streams) : allFragments (drawAll items streams).1 = allFragments items := by
  induction items generalizing streams with
  | nil => rfl
  | cons item rest inductionHypothesis =>
      have first := steady item (by simp) streams
      have others := inductionHypothesis (fun other member => steady other (by simp [member]))
        (item.draw streams).2
      simp only [drawAll, allFragments, first, others]

/-- A list of steady values is steady. -/
theorem isSteady_list {items : List Value} (steady : ∀ item ∈ items, item.IsSteady) :
    (Value.list items).IsSteady := by
  intro streams
  simp only [draw, fragments, fragments_drawAll steady streams]

end Value

/-- Attributes of a record with steady fields are steady. -/
theorem Extractor.isSteady_readAttributes {snapshot : Snapshot}
    (steady : ∀ name value, snapshot.fields.find? name = some value → value.IsSteady)
    (names : List String) : (readAttributes names snapshot).IsSteady := by
  refine Value.isSteady_list fun item member => ?_
  obtain ⟨name, -, rfl⟩ := List.mem_map.1 member
  unfold Snapshot.get
  cases found : snapshot.fields.find? name with
  | none => exact Value.isSteady_of_solid rfl
  | some value => exact steady name value found

/-! ## Indifferent actions -/

/-- An action whose outcome does not depend on the state. -/
def Action.IsIndifferent {σ α : Type} (action : Action σ α) : Prop :=
  ∀ left right, (action left).1 = (action right).1

namespace Action

variable {σ α β : Type}

/-- An action with one outcome, whatever state it starts from. -/
def Yields (action : Action σ α) (outcome : Except Failure α) : Prop :=
  ∀ state, (action state).1 = outcome

theorem IsIndifferent.yields {action : Action σ α} (indifferent : action.IsIndifferent) (state : σ) :
    action.Yields (action state).1 :=
  fun other => indifferent other state

theorem isIndifferent_pure (value : α) : (pure value : Action σ α).IsIndifferent :=
  fun _ _ => rfl

theorem isIndifferent_lift (outcome : Except Failure α) :
    (lift outcome : Action σ α).IsIndifferent :=
  fun _ _ => rfl

/-- A sequence is indifferent if its first part is, and its second for each value that the first
one gives. -/
theorem IsIndifferent.bind {action : Action σ α} {next : α → Action σ β}
    (first : action.IsIndifferent)
    (rest : ∀ value, (∃ state, (action state).1 = .ok value) → (next value).IsIndifferent) :
    (action >>= next).IsIndifferent := by
  intro left right
  have same := first left right
  rw [bind_apply, bind_apply]
  cases atLeft : action left with
  | mk outcome leftAfter =>
      cases atRight : action right with
      | mk rightOutcome rightAfter =>
          rw [atLeft, atRight] at same
          cases same
          cases outcome with
          | error failure => rfl
          | ok value => exact rest value ⟨left, by rw [atLeft]⟩ leftAfter rightAfter

theorem isIndifferent_each {action : α → Action σ β} {items : List α}
    (indifferent : ∀ item ∈ items, (action item).IsIndifferent) :
    (each action items).IsIndifferent := by
  induction items with
  | nil => exact isIndifferent_pure []
  | cons item rest inductionHypothesis =>
      refine (indifferent item (by simp)).bind fun value _ => ?_
      have others := inductionHypothesis fun other member => indifferent other (by simp [member])
      exact others.bind fun values _ => isIndifferent_pure (value :: values)

/-- A repetition depends on its steps at the members of the list alone. -/
theorem each_congr {left right : α → Action σ β} {items : List α}
    (same : ∀ item ∈ items, left item = right item) : each left items = each right items := by
  induction items with
  | nil => rfl
  | cons item rest inductionHypothesis =>
      have others := inductionHypothesis fun other member => same other (by simp [member])
      simp only [each, same item (by simp), others]

end Action

theorem Value.isIndifferent_drawFragments {value : Value} (steady : value.IsSteady) :
    value.drawFragments.IsIndifferent := by
  intro left right
  simp only [drawFragments, steady left, steady right]

/-! ## Texts -/

namespace Registry

variable {ρ : Type}

/-- Whether every field of a type gives a steady value for a record, unless it fails. -/
def IsSteadyFor (registry : Registry) (view : RecordView ρ) (entityType : String)
    (record : ρ) : Prop :=
  ∀ row ∈ (registry.get entityType).fields.rows, ∀ value,
    registry.extractValue view record row.2 = .ok value → value.IsSteady

/-- The texts of a record with steady fields, or their failure, do not depend on what was read
before. -/
theorem isIndifferent_build {registry : Registry} {view : RecordView ρ} {entityType : String}
    {record : ρ} (steady : registry.IsSteadyFor view entityType record) :
    (registry.build view entityType record).IsIndifferent := by
  have extracted : ∀ row ∈ (registry.get entityType).fields.rows,
      (registry.extractNamed view record row).IsIndifferent := by
    intro row member
    refine Action.IsIndifferent.bind (Action.IsIndifferent.bind (Action.isIndifferent_lift _) ?_) ?_
    · rintro value ⟨state, given⟩
      exact Value.isIndifferent_drawFragments (steady row member value given)
    · exact fun fragments _ => Action.isIndifferent_pure (row.1, row.2, fragments)
  exact (Action.isIndifferent_each extracted).bind fun rows _ => Action.isIndifferent_pure _

end Registry

end ShadowIndex
