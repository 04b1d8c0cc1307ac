import ShadowIndex.Table

/-!
Contract: locks by key, and how many hold each of them.

Owns:
- `Lock`, which is told apart from every other lock by its number;
- `KeyedLocks`. A lock is made when its key is first entered, and is kept until it is discarded
  while nobody holds it. Holders are counted apart from the locks, for the keys that have any.

Does not own: what is done under a lock.
-/

set_option autoImplicit false

namespace ShadowIndex

/-- A lock; no other lock ever made has its number. -/
structure Lock where
  number : Nat
deriving DecidableEq, Repr, Inhabited

/-- The known locks by key, the number of holders of each key that has any, and how many locks were
ever made. -/
structure KeyedLocks (κ : Type) where
  locks : Table κ Lock
  users : Table κ Nat
  made : Nat

namespace KeyedLocks

variable {κ : Type} [DecidableEq κ]

def empty : KeyedLocks κ := ⟨.empty, .empty, 0⟩

instance : Inhabited (KeyedLocks κ) := ⟨empty⟩

def size (keyed : KeyedLocks κ) : Nat := keyed.locks.size

def find? (keyed : KeyedLocks κ) (key : κ) : Option Lock := keyed.locks.find? key

def contains (keyed : KeyedLocks κ) (key : κ) : Bool := keyed.locks.contains key

def holdersOf (keyed : KeyedLocks κ) (key : κ) : Nat := (keyed.users.find? key).getD 0

/-- The lock of a key, which is made if there is none. -/
def lockOf (keyed : KeyedLocks κ) (key : κ) : Lock × KeyedLocks κ :=
  match keyed.find? key with
  | some lock => (lock, keyed)
  | none =>
      (⟨keyed.made⟩,
        { keyed with locks := keyed.locks.insert key ⟨keyed.made⟩, made := keyed.made + 1 })

/-- The lock of a key, which has one holder more. -/
def acquire (keyed : KeyedLocks κ) (key : κ) : Lock × KeyedLocks κ :=
  let (lock, found) := keyed.lockOf key
  (lock, { found with users := found.users.insert key (found.holdersOf key + 1) })

def enter (keyed : KeyedLocks κ) (key : κ) : KeyedLocks κ := (keyed.acquire key).2

/-- One holder less. The count goes with the last holder, the lock stays. -/
def leave (keyed : KeyedLocks κ) (key : κ) : KeyedLocks κ :=
  let remaining := keyed.holdersOf key - 1
  if remaining = 0 then { keyed with users := keyed.users.erase key }
  else { keyed with users := keyed.users.insert key remaining }

/-- Forgets the lock of a key that nobody holds, and tells whether there was one. -/
def tryDiscard (keyed : KeyedLocks κ) (key : κ) : Bool × KeyedLocks κ :=
  if keyed.holdersOf key ≠ 0 then (false, keyed)
  else (keyed.contains key, { keyed with locks := keyed.locks.erase key })

/-- Whether a key has a lock and nobody holds it. -/
def isIdle (keyed : KeyedLocks κ) (key : κ) : Bool := (keyed.tryDiscard key).1

/-- Forgets an idle lock; any other stays. -/
def discard (keyed : KeyedLocks κ) (key : κ) : KeyedLocks κ := (keyed.tryDiscard key).2

/-! ## Locks -/

theorem contains_eq_isSome (keyed : KeyedLocks κ) (key : κ) :
    keyed.contains key = (keyed.find? key).isSome :=
  keyed.locks.contains_eq_isSome key

/-- Acquiring gives the lock that its key has then, and changes the lock of no other key. -/
theorem find?_acquire (keyed : KeyedLocks κ) (key other : κ) :
    (keyed.acquire key).2.find? other =
      if other = key then some (keyed.acquire key).1 else keyed.find? other := by
  unfold acquire lockOf
  cases found : keyed.find? key with
  | some lock =>
      show keyed.find? other = _
      by_cases same : other = key
      · rw [if_pos same, same, found]
      · rw [if_neg same]
  | none => exact keyed.locks.find?_insert key _ other

/-- A key that has a lock keeps it. -/
theorem acquire_of_found {keyed : KeyedLocks κ} {key : κ} {lock : Lock}
    (found : keyed.find? key = some lock) : (keyed.acquire key).1 = lock := by
  simp [acquire, lockOf, found]

@[simp] theorem find?_leave (keyed : KeyedLocks κ) (key other : κ) :
    (keyed.leave key).find? other = keyed.find? other := by
  unfold leave
  dsimp only
  split <;> rfl

theorem isIdle_iff (keyed : KeyedLocks κ) (key : κ) :
    keyed.isIdle key = true ↔ keyed.holdersOf key = 0 ∧ keyed.contains key = true := by
  unfold isIdle tryDiscard
  by_cases nobody : keyed.holdersOf key = 0
  · simp [nobody]
  · simp [nobody]

/-- An idle lock is dropped; otherwise nothing changes. -/
theorem tryDiscard_eq (keyed : KeyedLocks κ) (key : κ) :
    keyed.tryDiscard key =
      if keyed.isIdle key = true then (true, { keyed with locks := keyed.locks.erase key })
      else (false, keyed) := by
  unfold isIdle tryDiscard
  by_cases nobody : keyed.holdersOf key = 0
  · simp only [nobody, ne_eq, not_true_eq_false, if_false]
    by_cases known : keyed.contains key = true
    · simp only [known, if_true]
    · have absent : key ∉ keyed.locks.keys := by simpa [contains, Table.contains] using known
      rw [if_neg known, Table.erase_eq_self absent]
      simp [known]
  · simp [nobody]

theorem find?_discard (keyed : KeyedLocks κ) (key other : κ) :
    (keyed.discard key).find? other =
      if other = key ∧ keyed.isIdle key = true then none else keyed.find? other := by
  rw [discard, tryDiscard_eq]
  by_cases idle : keyed.isIdle key = true
  · simp only [idle, if_true, and_true]
    exact keyed.locks.find?_erase key other
  · simp [idle]

/-! ## Holders -/

theorem users_acquire (keyed : KeyedLocks κ) (key other : κ) :
    (keyed.acquire key).2.users.find? other =
      if other = key then some (keyed.holdersOf key + 1) else keyed.users.find? other := by
  unfold acquire lockOf
  cases keyed.find? key <;> exact keyed.users.find?_insert key _ other

theorem users_leave (keyed : KeyedLocks κ) (key other : κ) :
    (keyed.leave key).users.find? other =
      if other = key then
        if keyed.holdersOf key - 1 = 0 then none else some (keyed.holdersOf key - 1)
      else keyed.users.find? other := by
  unfold leave
  by_cases last : keyed.holdersOf key - 1 = 0
  · simp only [last, if_true]
    exact keyed.users.find?_erase key other
  · simp only [last, if_false]
    exact keyed.users.find?_insert key _ other

@[simp] theorem users_discard (keyed : KeyedLocks κ) (key : κ) :
    (keyed.discard key).users = keyed.users := by
  unfold discard tryDiscard
  split <;> rfl

/-- Entering adds one holder to its key and none to any other. -/
theorem holdersOf_enter (keyed : KeyedLocks κ) (key other : κ) :
    (keyed.enter key).holdersOf other =
      if other = key then keyed.holdersOf key + 1 else keyed.holdersOf other := by
  rw [enter, holdersOf, users_acquire]
  by_cases same : other = key
  · simp [same]
  · simp [same, holdersOf]

/-- Leaving takes one holder from its key and none from any other. -/
theorem holdersOf_leave (keyed : KeyedLocks κ) (key other : κ) :
    (keyed.leave key).holdersOf other =
      if other = key then keyed.holdersOf key - 1 else keyed.holdersOf other := by
  rw [holdersOf, users_leave]
  by_cases same : other = key
  · by_cases last : keyed.holdersOf key - 1 = 0
    · simp [same, last]
    · simp [same, last]
  · simp [same, holdersOf]

/-- Discarding forgets no holder. -/
theorem holdersOf_discard (keyed : KeyedLocks κ) (key other : κ) :
    (keyed.discard key).holdersOf other = keyed.holdersOf other := by
  rw [holdersOf, users_discard, holdersOf]

/-! ## Keys -/

theorem contains_enter_iff (keyed : KeyedLocks κ) (key other : κ) :
    (keyed.enter key).contains other = true ↔ other = key ∨ keyed.contains other = true := by
  rw [contains_eq_isSome, contains_eq_isSome, enter, find?_acquire]
  by_cases same : other = key
  · simp [same]
  · simp [same]

theorem contains_leave (keyed : KeyedLocks κ) (key other : κ) :
    (keyed.leave key).contains other = keyed.contains other := by
  rw [contains_eq_isSome, contains_eq_isSome, find?_leave]

theorem contains_discard_iff (keyed : KeyedLocks κ) (key other : κ) :
    (keyed.discard key).contains other = true ↔
      keyed.contains other = true ∧ ¬ (other = key ∧ keyed.isIdle key = true) := by
  rw [contains_eq_isSome, contains_eq_isSome, find?_discard]
  split
  · rename_i dropped
    simp [dropped]
  · rename_i kept
    simp only [kept, not_false_eq_true, and_true]

theorem contains_of_discard {keyed : KeyedLocks κ} {key other : κ}
    (kept : (keyed.discard key).contains other = true) : keyed.contains other = true :=
  ((contains_discard_iff keyed key other).1 kept).1

/-- Discarding forgets the lock of a key that nobody holds. -/
theorem contains_discard_self {keyed : KeyedLocks κ} {key : κ}
    (nobody : keyed.holdersOf key = 0) : (keyed.discard key).contains key = false := by
  rw [Bool.eq_false_iff, ne_eq, contains_discard_iff]
  rintro ⟨known, busy⟩
  exact busy ⟨rfl, (isIdle_iff keyed key).2 ⟨nobody, known⟩⟩

end KeyedLocks

end ShadowIndex
