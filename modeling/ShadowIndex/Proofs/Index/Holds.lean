import ShadowIndex.Index.Locks
import ShadowIndex.Failure

/-!
Contract: keyed locks keep track of those who hold them.

Owns:
- `KeyedLocks.Run`, well-nested runs of one thread: holds that begin and end, and discards, with the
  lock that each open hold was given;
- `KeyedLocks.IsNumbered`: the locks of different keys are different;
- `KeyedLocks.Tracks`, what a run leaves in the locks and in the counts, which every step keeps
  (`Tracks.enter`, `Tracks.leave`, `Tracks.discard`);
- `KeyedLocks.holders_tracked`: this after every run, and what it means for the locks of open holds
  and for discards.

Does not own: waiting for a lock, which one thread alone never does, or which work is well nested.
-/

set_option autoImplicit false

namespace ShadowIndex

namespace KeyedLocks

variable {κ : Type} [DecidableEq κ]

/-! ## Runs -/

/-- What is done with keyed locks: a hold begins, it ends with the outcome of the work under it, or a
key is discarded, which may drop its lock. -/
inductive Use (κ : Type) where
  | enter (key : κ)
  | leave (key : κ) (outcome : Except Failure Unit)
  | discard (key : κ) (dropped : Bool)

/-- A run on new locks: what was done, the open holds with the locks that they were given, innermost
first, and the locks now. Only the innermost hold ends. -/
inductive Run : List (Use κ) → List (κ × Lock) → KeyedLocks κ → Prop where
  | start : Run [] [] empty
  | enter {uses : List (Use κ)} {holds : List (κ × Lock)} {keyed : KeyedLocks κ}
      (before : Run uses holds keyed) (key : κ) :
      Run (uses ++ [.enter key]) ((key, (keyed.acquire key).1) :: holds) (keyed.acquire key).2
  | leave {uses : List (Use κ)} {holds : List (κ × Lock)} {keyed : KeyedLocks κ} {key : κ}
      {lock : Lock} (before : Run uses ((key, lock) :: holds) keyed)
      (outcome : Except Failure Unit) :
      Run (uses ++ [.leave key outcome]) holds (keyed.leave key)
  | discard {uses : List (Use κ)} {holds : List (κ × Lock)} {keyed : KeyedLocks κ}
      (before : Run uses holds keyed) (key : κ) :
      Run (uses ++ [.discard key (keyed.tryDiscard key).1]) holds (keyed.tryDiscard key).2

/-- How many of the open holds are of a key. -/
def holdsOf (holds : List (κ × Lock)) (key : κ) : Nat :=
  holds.countP fun hold => decide (hold.1 = key)

/-- Whether a key was held, and no discard has dropped its lock since. -/
def HeldSince (uses : List (Use κ)) (key : κ) : Prop :=
  ∃ earlier later, uses = earlier ++ .enter key :: later ∧ .discard key true ∉ later

theorem holdsOf_cons (key : κ) (lock : Lock) (holds : List (κ × Lock)) (other : κ) :
    holdsOf ((key, lock) :: holds) other =
      holdsOf holds other + if other = key then 1 else 0 := by
  rw [holdsOf, List.countP_cons, holdsOf]
  by_cases same : other = key
  · simp [same]
  · simp [same, Ne.symm same]

theorem holdsOf_eq_zero_iff (holds : List (κ × Lock)) (key : κ) :
    holdsOf holds key = 0 ↔ ∀ hold ∈ holds, hold.1 ≠ key := by
  simp [holdsOf, List.countP_eq_zero]

omit [DecidableEq κ] in
/-- Only the last use decides: a hold makes a key a held one, and a discard that drops its lock ends
that. -/
theorem heldSince_concat (uses : List (Use κ)) (use : Use κ) (key : κ) :
    HeldSince (uses ++ [use]) key ↔
      use = .enter key ∨ (HeldSince uses key ∧ use ≠ .discard key true) := by
  constructor
  · rintro ⟨earlier, later, isSplit, kept⟩
    rcases List.eq_nil_or_concat later with rfl | ⟨between, last, rfl⟩
    · left
      exact (List.cons.inj (List.append_inj' isSplit rfl).2).1
    · right
      have isLonger : uses ++ [use] = (earlier ++ .enter key :: between) ++ [last] := by
        simpa using isSplit
      obtain ⟨sameUses, sameLast⟩ := List.append_inj' isLonger rfl
      obtain rfl := (List.cons.inj sameLast).1
      simp only [List.concat_eq_append, List.mem_append, List.mem_singleton, not_or] at kept
      exact ⟨⟨earlier, between, sameUses, kept.1⟩, fun isDrop => kept.2 isDrop.symm⟩
  · rintro (rfl | ⟨⟨earlier, later, rfl, kept⟩, stays⟩)
    · exact ⟨uses, [], rfl, List.not_mem_nil⟩
    · refine ⟨earlier, later ++ [use], by simp, ?_⟩
      simp only [List.mem_append, List.mem_singleton, not_or]
      exact ⟨kept, fun isDrop => stays isDrop.symm⟩

/-! ## Numbers -/

/-- Locks of different keys have different numbers, below that of the next lock. -/
structure IsNumbered (keyed : KeyedLocks κ) : Prop where
  made : ∀ key lock, keyed.find? key = some lock → lock.number < keyed.made
  apart : ∀ key other lock, keyed.find? key = some lock → keyed.find? other = some lock → key = other

theorem isNumbered_empty : (empty : KeyedLocks κ).IsNumbered where
  made _ _ impossible := by cases impossible
  apart _ _ _ impossible := by cases impossible

/-- Locks that were there before, under their keys, are numbered as they were. -/
theorem IsNumbered.of_found {former later : KeyedLocks κ} (numbered : former.IsNumbered)
    (sameMade : later.made = former.made)
    (found : ∀ key lock, later.find? key = some lock → former.find? key = some lock) :
    later.IsNumbered where
  made key lock isLock := by
    rw [sameMade]
    exact numbered.made key lock (found key lock isLock)
  apart key other lock isLock isOther :=
    numbered.apart key other lock (found key lock isLock) (found other lock isOther)

section Acquire

variable {keyed : KeyedLocks κ} {key other : κ} {lock : Lock}

/-- A lock that is there after acquiring was there before, or it is the new one of its key. -/
theorem acquire_inv (found : (keyed.acquire key).2.find? other = some lock) :
    keyed.find? other = some lock ∨
      other = key ∧ lock.number = keyed.made ∧ (keyed.acquire key).2.made = keyed.made + 1 := by
  rw [find?_acquire] at found
  by_cases same : other = key
  · rw [if_pos same] at found
    cases known : keyed.find? key with
    | some present =>
        rw [acquire_of_found known] at found
        exact Or.inl (by rw [same, known, found])
    | none =>
        right
        simp only [acquire, lockOf, known, Option.some.injEq, and_true] at found ⊢
        exact ⟨same, by rw [← found]⟩
  · rw [if_neg same] at found
    exact Or.inl found

theorem made_le_acquire (keyed : KeyedLocks κ) (key : κ) :
    keyed.made ≤ (keyed.acquire key).2.made := by
  unfold acquire lockOf
  cases keyed.find? key with
  | some present => exact Nat.le_refl _
  | none => exact Nat.le_succ _

theorem IsNumbered.acquire (numbered : keyed.IsNumbered) (key : κ) :
    (keyed.acquire key).2.IsNumbered where
  made other lock found := by
    rcases acquire_inv found with earlier | ⟨-, isNew, oneMore⟩
    · exact Nat.lt_of_lt_of_le (numbered.made other lock earlier) (made_le_acquire keyed key)
    · omega
  apart left right lock isLeft isRight := by
    rcases acquire_inv isLeft with leftEarlier | ⟨leftKey, leftNew, -⟩
    · rcases acquire_inv isRight with rightEarlier | ⟨-, rightNew, -⟩
      · exact numbered.apart left right lock leftEarlier rightEarlier
      · have below := numbered.made left lock leftEarlier
        omega
    · rcases acquire_inv isRight with rightEarlier | ⟨rightKey, -, -⟩
      · have below := numbered.made right lock rightEarlier
        omega
      · rw [leftKey, rightKey]

end Acquire

/-! ## What is tracked -/

/-- What keyed locks show after a run. The counts are those of the open holds, and there are no
others. The key of each open hold has the lock that the hold was given, and no two keys have the same
one. The keys with a lock are those that were held since it was last dropped. -/
structure Tracks (uses : List (Use κ)) (holds : List (κ × Lock)) (keyed : KeyedLocks κ) : Prop where
  counts : ∀ key, keyed.users.find? key =
    if holdsOf holds key = 0 then none else some (holdsOf holds key)
  locked : ∀ hold ∈ holds, keyed.find? hold.1 = some hold.2
  numbered : keyed.IsNumbered
  kept : ∀ key, keyed.contains key = true ↔ HeldSince uses key

section Steps

variable {uses : List (Use κ)} {holds : List (κ × Lock)} {keyed : KeyedLocks κ}

theorem tracks_start : Tracks [] [] (empty : KeyedLocks κ) where
  counts _ := rfl
  locked _ member := absurd member List.not_mem_nil
  numbered := isNumbered_empty
  kept key := by
    constructor
    · intro impossible
      cases impossible
    · rintro ⟨earlier, later, isSplit, -⟩
      simp at isSplit

theorem Tracks.holdersOf_eq (tracks : Tracks uses holds keyed) (key : κ) :
    keyed.holdersOf key = holdsOf holds key := by
  rw [holdersOf, tracks.counts]
  split
  · rename_i none
    exact none.symm
  · rfl

/-- A hold that begins is counted, and is given the lock that its key has. -/
theorem Tracks.enter (tracks : Tracks uses holds keyed) (key : κ) :
    Tracks (uses ++ [.enter key]) ((key, (keyed.acquire key).1) :: holds)
      (keyed.acquire key).2 where
  counts other := by
    rw [users_acquire, holdsOf_cons, tracks.holdersOf_eq, tracks.counts]
    by_cases same : other = key
    · simp [same]
    · simp [same]
  locked := by
    intro hold member
    rw [find?_acquire]
    rcases List.mem_cons.1 member with rfl | earlier
    · rw [if_pos rfl]
    · have given := tracks.locked hold earlier
      by_cases same : hold.1 = key
      · rw [if_pos same, acquire_of_found (same ▸ given)]
      · rw [if_neg same, given]
  numbered := tracks.numbered.acquire key
  kept other := by
    have entered := contains_enter_iff keyed key other
    rw [KeyedLocks.enter, tracks.kept] at entered
    rw [entered, heldSince_concat]
    simp [eq_comm]

/-- A hold that ends, with whatever outcome, is no longer counted, and its lock stays. -/
theorem Tracks.leave {key : κ} {lock : Lock} (tracks : Tracks uses ((key, lock) :: holds) keyed)
    (outcome : Except Failure Unit) :
    Tracks (uses ++ [.leave key outcome]) holds (keyed.leave key) where
  counts other := by
    rw [users_leave, tracks.holdersOf_eq, tracks.counts, holdsOf_cons, holdsOf_cons]
    by_cases same : other = key
    · simp [same]
    · simp [same]
  locked hold member := by
    rw [find?_leave]
    exact tracks.locked hold (List.mem_cons_of_mem _ member)
  numbered := tracks.numbered.of_found (by unfold KeyedLocks.leave; dsimp only; split <;> rfl)
    fun other held found => by rwa [find?_leave] at found
  kept other := by
    rw [contains_leave, tracks.kept, heldSince_concat]
    simp

/-- A lock is dropped exactly if its key has no open hold. -/
theorem Tracks.isIdle_iff (tracks : Tracks uses holds keyed) (key : κ) :
    keyed.isIdle key = true ↔ keyed.contains key = true ∧ holdsOf holds key = 0 := by
  rw [KeyedLocks.isIdle_iff, tracks.holdersOf_eq]
  exact and_comm

theorem Tracks.discard (tracks : Tracks uses holds keyed) (key : κ) :
    Tracks (uses ++ [.discard key (keyed.tryDiscard key).1]) holds (keyed.tryDiscard key).2 where
  counts other := by
    have sameUsers := users_discard keyed key
    rw [KeyedLocks.discard] at sameUsers
    rw [sameUsers, tracks.counts]
  locked hold member := by
    have given := tracks.locked hold member
    have busy : ¬ (hold.1 = key ∧ keyed.isIdle key = true) := by
      rintro ⟨isKey, idle⟩
      exact (holdsOf_eq_zero_iff holds key).1 ((tracks.isIdle_iff key).1 idle).2 hold member isKey
    rw [← KeyedLocks.discard, find?_discard, if_neg busy, given]
  numbered := by
    refine tracks.numbered.of_found ?_ fun other held found => ?_
    · rw [tryDiscard_eq]
      split <;> rfl
    · rw [← KeyedLocks.discard, find?_discard] at found
      split at found
      · cases found
      · exact found
  kept other := by
    have isDrop : Use.discard key (keyed.tryDiscard key).1 = .discard other true ↔
        other = key ∧ keyed.isIdle key = true := by
      rw [Use.discard.injEq, isIdle, @eq_comm _ key]
    rw [← KeyedLocks.discard, contains_discard_iff, tracks.kept, heldSince_concat, ne_eq, isDrop]
    simp

/-- A run is tracked from its start, step by step. -/
theorem Run.tracks (run : Run uses holds keyed) : Tracks uses holds keyed := by
  induction run with
  | start => exact tracks_start
  | enter _ key tracks => exact tracks.enter key
  | leave _ outcome tracks => exact tracks.leave outcome
  | discard _ key tracks => exact tracks.discard key

/-- After a well-nested run, each key is counted as often as it has open holds. As long as a hold is
open, whatever else is done, its key has the lock that it has now, which the hold was given when it
began. A discard drops a lock, and nothing else, exactly if the key has one and no open hold. -/
theorem holders_tracked (run : Run uses holds keyed) :
    Tracks uses holds keyed ∧
      (∀ more others later, Run (uses ++ more) others later →
        ∀ hold ∈ holds, hold ∈ others → later.find? hold.1 = keyed.find? hold.1) ∧
      ∀ key, keyed.tryDiscard key =
        if keyed.contains key = true ∧ holdsOf holds key = 0 then
          (true, { keyed with locks := keyed.locks.erase key })
        else (false, keyed) := by
  refine ⟨run.tracks, fun more others later continued hold isOpen stillOpen => ?_, fun key => ?_⟩
  · rw [continued.tracks.locked hold stillOpen, run.tracks.locked hold isOpen]
  · rw [tryDiscard_eq]
    simp only [run.tracks.isIdle_iff]

end Steps

/-- The first key is held twice, and the second between; a discard of the first is refused, the inner
hold of it fails, and the second is discarded when it is free. -/
def errand : List (Use Nat) :=
  [.enter 1, .enter 2, .enter 1, .discard 1 false, .leave 1 (.error (.definition .dependencyTypes)),
    .leave 2 (.ok ()), .discard 2 true]

def afterErrand : KeyedLocks Nat :=
  ((((((empty.enter 1).enter 2).enter 1).discard 1).leave 1).leave 2).discard 2

theorem run_errand : Run errand [(1, ⟨0⟩)] afterErrand :=
  ((((((Run.start.enter 1).enter 2).enter 1).discard 1).leave
    (.error (.definition .dependencyTypes))).leave (.ok ())).discard 2

/-- The first key is still held once, under the lock that was made for it. -/
theorem holders_tracked_errand :
    Run errand [(1, ⟨0⟩)] afterErrand ∧ Tracks errand [(1, ⟨0⟩)] afterErrand ∧
      afterErrand.users.rows = [(1, 1)] ∧ afterErrand.locks.rows = [(1, ⟨0⟩)] ∧
      afterErrand.tryDiscard 1 = (false, afterErrand) := by
  obtain ⟨tracks, -, discards⟩ := holders_tracked run_errand
  exact ⟨run_errand, tracks, by decide, by decide, discards 1⟩

end KeyedLocks

end ShadowIndex
