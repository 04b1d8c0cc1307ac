import ShadowIndex.Failure

/-!
Contract: computations that may fail and always leave a state.

Owns: `Action`, with its sequence, its look at failures, and its repetition over a list. As a
monad it is lawful, takes in what may fail without a state, and lets failures be handled.

Does not own: what the state is.
-/

set_option autoImplicit false

namespace ShadowIndex

/-- A computation on a state. A failure keeps the changes made before it. -/
def Action (σ α : Type) : Type := σ → Except Failure α × σ

namespace Action

variable {σ α β : Type}

protected def pure (value : α) : Action σ α := fun state => (.ok value, state)

protected def bind (action : Action σ α) (next : α → Action σ β) : Action σ β := fun state =>
  match action state with
  | (.ok value, after) => next value after
  | (.error failure, after) => (.error failure, after)

instance : Monad (Action σ) where
  pure := Action.pure
  bind := Action.bind

@[simp] theorem pure_apply (value : α) (state : σ) :
    (pure value : Action σ α) state = (.ok value, state) := rfl

theorem bind_apply (action : Action σ α) (next : α → Action σ β) (state : σ) :
    (action >>= next) state =
      match action state with
      | (.ok value, after) => next value after
      | (.error failure, after) => (.error failure, after) := rfl

def fail (failure : Failure) : Action σ α := fun state => (.error failure, state)

def read : Action σ σ := fun state => (.ok state, state)

def change (update : σ → σ) : Action σ Unit := fun state => (.ok (), update state)

/-- The value of a computation without state. -/
def lift (outcome : Except Failure α) : Action σ α := fun state => (outcome, state)

instance : MonadLift (Except Failure) (Action σ) := ⟨lift⟩

/-- Changes made before a failure stay when it is handled. -/
instance : MonadExceptOf Failure (Action σ) where
  throw := fail
  tryCatch action handle := fun state =>
    match action state with
    | (.ok value, after) => (.ok value, after)
    | (.error failure, after) => handle failure after

protected theorem id_map (action : Action σ α) : id <$> action = action := by
  funext state
  show (Action.bind action fun value => Action.pure value) state = action state
  unfold Action.bind
  rcases action state with ⟨_ | _, _⟩ <;> rfl

protected theorem bind_assoc {γ : Type} (action : Action σ α) (next : α → Action σ β)
    (last : β → Action σ γ) : action >>= next >>= last = action >>= fun value =>
      next value >>= last := by
  funext state
  simp only [bind, Action.bind]
  rcases action state with ⟨_ | _, _⟩ <;> rfl

instance : LawfulMonad (Action σ) :=
  LawfulMonad.mk' (Action σ) Action.id_map (fun _ _ => rfl) Action.bind_assoc

@[simp] theorem map_apply (change : α → β) (action : Action σ α) (state : σ) :
    (change <$> action) state = ((action state).1.map change, (action state).2) := by
  rw [← bind_pure_comp, bind_apply]
  rcases action state with ⟨_ | _, _⟩ <;> rfl

/-- Runs an action and gives its outcome, so that a failure can be looked at. -/
def attempt (action : Action σ α) : Action σ (Except Failure α) := fun state =>
  let (outcome, after) := action state
  (.ok outcome, after)

/-- Runs an action and then a change that depends on its outcome, also after a failure. -/
def ensuring (action : Action σ α) (finish : Except Failure α → σ → σ) : Action σ α :=
  fun state =>
    let (outcome, after) := action state
    (outcome, finish outcome after)

/-- Runs an action for each member of a list, up to the first failure. -/
def each (action : α → Action σ β) : List α → Action σ (List β)
  | [] => pure []
  | item :: rest => do
      let value ← action item
      let values ← each action rest
      return value :: values

end Action

end ShadowIndex
