import Mathlib.Order.Defs.Unbundled
import ShadowIndex.Proofs.Index.Runs

/-!
Contract: relations of stores that runs of actions respect.

Owns:
- `Index.Respects`: every run of an action, also one that fails, leads to a related store;
- what is composed of such actions is one, for relations that are preorders.

Does not own: which stores are related.
-/

set_option autoImplicit false

namespace ShadowIndex.Index

variable {α β : Type} {relation : Store → Store → Prop}

/-- Every run of an action, whatever its outcome, leads to a related store. -/
def Respects (relation : Store → Store → Prop) (action : Action Index α) : Prop :=
  ∀ ⦃before after : Store⦄ ⦃outcome : Except Failure α⦄,
    Runs action before outcome after → relation before after

/-! ## Brackets -/

section Brackets

variable {action : Action Index α}

theorem Respects.attempt (respects : Respects relation action) :
    Respects relation action.attempt := by
  intro before after outcome runs
  obtain ⟨inner, -, ran⟩ := runs.attempt_inv
  exact respects ran

theorem Respects.holding (respects : Respects relation action) (entityType : String) (id : Id) :
    Respects relation (holding entityType id.value action) :=
  fun _ _ _ runs => respects runs.holding_inv

theorem Respects.bound (respects : Respects relation action) (fields : List (String × Value)) :
    Respects relation (bound fields action) :=
  fun _ _ _ runs => respects runs.bound_inv

theorem Respects.span (respects : Respects relation action) (name : String)
    (attributes : List (String × Value)) : Respects relation (span name attributes action) :=
  fun _ _ _ runs => respects runs.span_inv

theorem Respects.timed (respects : Respects relation action) (labels : List (String × String)) :
    Respects relation (timed labels action) :=
  fun _ _ _ runs => respects runs.timed_inv

end Brackets

/-! ## Composition -/

section Composition

variable [IsPreorder Store relation]

theorem respects_of_quiet {action : Action Index α}
    (quiet : ∀ {before after : Store} {outcome : Except Failure α},
      Runs action before outcome after → after = before) : Respects relation action := by
  intro before after outcome runs
  rw [quiet runs]
  exact refl_of relation before

theorem respects_pure (value : α) : Respects relation (pure value) :=
  respects_of_quiet fun runs => runs.pure_inv.2

theorem respects_fail (failure : Failure) :
    Respects relation (Action.fail failure : Action Index α) :=
  respects_of_quiet fun runs => runs.fail_inv.2

theorem respects_lift (outcome : Except Failure α) : Respects relation (Action.lift outcome) :=
  respects_of_quiet fun runs => runs.lift_inv.2

theorem respects_query (look : Store → Except Failure α) : Respects relation (query look) :=
  respects_of_quiet fun runs => runs.query_inv.2

theorem respects_reading (action : Action Streams α) : Respects relation (reading action) :=
  respects_of_quiet fun runs => runs.reading_inv.2

theorem respects_emit (event : Event) : Respects relation (emit event) :=
  respects_of_quiet fun runs => runs.emit_inv.2

theorem respects_note (note : Note) : Respects relation (Index.note note) := respects_emit _

theorem respects_count (metric : Metric) (labels : List (String × String)) (amount : Nat) :
    Respects relation (count metric labels amount) := respects_emit _

theorem respects_discardLock (entityType : String) (id : Id) :
    Respects relation (discardLock entityType id.value) :=
  respects_of_quiet fun runs => runs.discardLock_inv.2

/-- The second part of a sequence may rely on what the first gives on some store. -/
theorem Respects.bind {action : Action Index α} {next : α → Action Index β}
    (first : Respects relation action)
    (rest : ∀ value, (∃ start finish, Runs action start (.ok value) finish) →
      Respects relation (next value)) :
    Respects relation (action >>= next) := by
  intro before after outcome runs
  rcases runs.bind_inv with ⟨value, middle, ran, later⟩ | ⟨failure, -, ran⟩
  · exact trans_of relation (first ran) (rest value ⟨before, middle, ran⟩ later)
  · exact first ran

theorem respects_each {action : α → Action Index β} {items : List α}
    (step : ∀ item ∈ items, Respects relation (action item)) :
    Respects relation (Action.each action items) := by
  induction items with
  | nil => exact respects_pure []
  | cons item rest inductionHypothesis =>
      have others := inductionHypothesis fun other member => step other (by simp [member])
      apply (step item (by simp)).bind
      intro value _
      exact others.bind fun values _ => respects_pure (value :: values)

end Composition

end ShadowIndex.Index
