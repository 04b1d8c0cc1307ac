import ShadowIndex.Index.Action

/-!
Contract: actions on the index that only write to its trail.

Owns: `IsQuiet`, and the parts from which quiet actions are composed.

Does not own: what is written.
-/

set_option autoImplicit false

namespace ShadowIndex.Index

variable {α β : Type}

/-- Entries, locks and streams are the same after an action. -/
def IsQuiet (action : Action Index α) : Prop :=
  ∀ index, ∃ trail, (action index).2 = { index with trail := trail }

theorem isQuiet_pure (value : α) : IsQuiet (pure value) := fun index => ⟨index.trail, rfl⟩

theorem isQuiet_lift (outcome : Except Failure α) : IsQuiet (Action.lift outcome) :=
  fun index => ⟨index.trail, rfl⟩

theorem isQuiet_emit (event : Event) : IsQuiet (emit event) := fun _ => ⟨_, rfl⟩

/-- A sequence is quiet if its first part is, and its second for each value that the first gives. -/
theorem IsQuiet.bind {action : Action Index α} {next : α → Action Index β}
    (first : IsQuiet action)
    (rest : ∀ value, (∃ index, (action index).1 = .ok value) → IsQuiet (next value)) :
    IsQuiet (action >>= next) := by
  intro index
  obtain ⟨trail, same⟩ := first index
  rw [Action.bind_apply]
  cases ran : action index with
  | mk outcome middle =>
      rw [ran] at same
      simp only at same
      subst same
      cases outcome with
      | error failure => exact ⟨trail, rfl⟩
      | ok value => exact rest value ⟨index, by rw [ran]⟩ _

theorem isQuiet_each {action : α → Action Index β} {items : List α}
    (quiet : ∀ item ∈ items, IsQuiet (action item)) : IsQuiet (Action.each action items) := by
  induction items with
  | nil => exact isQuiet_pure []
  | cons item rest inductionHypothesis =>
      refine (quiet item (by simp)).bind fun value _ => ?_
      have others := inductionHypothesis fun other member => quiet other (by simp [member])
      exact others.bind fun values _ => isQuiet_pure (value :: values)

theorem IsQuiet.ensuring {action : Action Index α} {finish : Except Failure α → Index → Index}
    (quiet : IsQuiet action)
    (finishes : ∀ outcome index, ∃ trail, finish outcome index = { index with trail := trail }) :
    IsQuiet (action.ensuring finish) := by
  intro index
  obtain ⟨trail, same⟩ := quiet index
  obtain ⟨last, finished⟩ := finishes (action index).1 (action index).2
  exact ⟨last, by rw [show (action.ensuring finish index).2 = _ from finished, same]⟩

theorem IsQuiet.bound {work : Action Index α} (quiet : IsQuiet work)
    (fields : List (String × Value)) : IsQuiet (bound fields work) :=
  (isQuiet_emit _).bind fun _ _ => quiet.ensuring fun _ _ => ⟨_, rfl⟩

theorem IsQuiet.span {work : Action Index α} (quiet : IsQuiet work) (name : String)
    (attributes : List (String × Value)) : IsQuiet (span name attributes work) :=
  (isQuiet_emit _).bind fun _ _ => quiet.ensuring fun outcome _ => by
    cases outcome with
    | ok value => exact ⟨_, rfl⟩
    | error failure => exact ⟨_, rfl⟩

theorem IsQuiet.timed {work : Action Index α} (quiet : IsQuiet work)
    (labels : List (String × String)) : IsQuiet (timed labels work) :=
  quiet.ensuring fun _ _ => ⟨_, rfl⟩

end ShadowIndex.Index
