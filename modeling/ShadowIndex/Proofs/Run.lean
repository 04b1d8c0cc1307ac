/-!
Contract: runs of a step function.

Owns:
- `Run.afterAll`, the state after steps in a row, and `Run.Along`, what holds of every step of a
  run, each in the state that it starts from;
- the one induction over runs: what each step keeps holds after all of them
  (`Run.Keeps.afterAll`), and with it what follows after each step (`Run.Keeps.along`).

Does not own: what a step is.
-/

set_option autoImplicit false

namespace ShadowIndex.Run

variable {σ α : Type} {step : α → σ → σ} {property other allowed : σ → α → Prop}
variable {invariant : σ → Prop} {state : σ} {items earlier later : List α}

/-- The state after steps in a row. -/
def afterAll (step : α → σ → σ) (state : σ) : List α → σ
  | [] => state
  | item :: rest => afterAll step (step item state) rest

/-- Whether something holds of every step of a run, each in the state that it starts from. -/
def Along (step : α → σ → σ) (property : σ → α → Prop) (state : σ) : List α → Prop
  | [] => True
  | item :: rest => property state item ∧ Along step property (step item state) rest

theorem afterAll_append (step : α → σ → σ) (state : σ) (earlier later : List α) :
    afterAll step state (earlier ++ later) = afterAll step (afterAll step state earlier) later := by
  induction earlier generalizing state with
  | nil => rfl
  | cons item rest inductionHypothesis => exact inductionHypothesis (step item state)

theorem along_append : Along step property state (earlier ++ later) ↔
    Along step property state earlier ∧
      Along step property (afterAll step state earlier) later := by
  induction earlier generalizing state with
  | nil => simp [Along, afterAll]
  | cons item rest inductionHypothesis =>
      simp only [List.cons_append, Along, afterAll, inductionHypothesis, and_assoc]

theorem along_concat {last : α} : Along step property state (items ++ [last]) ↔
    Along step property state items ∧ property (afterAll step state items) last := by
  simp only [along_append, Along, and_true]

theorem along_and :
    Along step (fun state item => property state item ∧ other state item) state items ↔
      Along step property state items ∧ Along step other state items := by
  induction items generalizing state with
  | nil => simp [Along]
  | cons item rest inductionHypothesis =>
      simp only [Along, inductionHypothesis]
      exact and_and_and_comm

/-- What holds of the steps in every state holds of them along a run. -/
theorem along_of_forall {holds : α → Prop} (all : ∀ item ∈ items, holds item) :
    Along step (fun _ item => holds item) state items := by
  induction items generalizing state with
  | nil => trivial
  | cons item rest inductionHypothesis =>
      exact ⟨all item (by simp),
        inductionHypothesis fun other member => all other (by simp [member])⟩

/-- Every step that is allowed keeps something. -/
def Keeps (step : α → σ → σ) (allowed : σ → α → Prop) (invariant : σ → Prop) : Prop :=
  ∀ ⦃state item⦄, invariant state → allowed state item → invariant (step item state)

namespace Keeps

variable (keeps : Keeps step allowed invariant) (start : invariant state)
variable (run : Along step allowed state items)
include keeps start run

theorem afterAll : invariant (afterAll step state items) := by
  induction items generalizing state with
  | nil => exact start
  | cons item rest inductionHypothesis => exact inductionHypothesis (keeps start run.1) run.2

/-- What follows from an invariant holds along the run. -/
theorem along (gives : ∀ ⦃state item⦄, invariant state → allowed state item → property state item) :
    Along step property state items := by
  induction items generalizing state with
  | nil => trivial
  | cons item rest inductionHypothesis =>
      exact ⟨gives start run.1, inductionHypothesis (keeps start run.1) run.2⟩

end Keeps

end ShadowIndex.Run
