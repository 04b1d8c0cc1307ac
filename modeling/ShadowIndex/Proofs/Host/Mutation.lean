import Mathlib.Data.List.Chain
import ShadowIndex.Host.Basic
import ShadowIndex.Index.Change
import ShadowIndex.Proofs.Run

/-!
Contract: mutations of a host, and the changes that they commit.

Owns:
- `Mutation`, with the host after it and the change that it commits, if it commits one;
- a mutation that commits nothing leaves all records alone (`Mutation.keeps_of_uncommitted`), and a
  committed change moves one record only (`Mutation.moves_of_committed`);
- the changes that mutations in a row commit, and the life of one record along them
  (`Mutation.alternates_afterAll`): creation, updates, destruction, and again;
- what is last known of a record, which only its creation and its updates change
  (`Mutation.lastKnown_afterAll`).

Does not own: who is told of changes.
-/

set_option autoImplicit false

namespace ShadowIndex

/-- What is asked of a host that changes records. -/
inductive Mutation where
  | create (entityType : String) (fields : Fields)
  | update (entityType : String) (id : Value) (changes : Fields)
  | destroy (entityType : String) (id : Value)

namespace Host

/-- Whether there is a record under a key. -/
def has (host : Host) (name : String × Key) : Bool := (host.records.find? name).isSome

/-- Records, relations and outages are as they were. -/
structure Keeps (before after : Host) : Prop where
  records : after.records = before.records
  destroyed : after.destroyed = before.destroyed
  relations : after.relations = before.relations
  outage : after.outage = before.outage

/-- One record is created, updated or destroyed; all others are as they were. -/
structure Moves (kind : ChangeKind) (name : String × Key) (before after : Host) : Prop where
  relations : after.relations = before.relations
  outage : after.outage = before.outage
  records : ∀ other, other ≠ name → after.records.find? other = before.records.find? other
  destroyed : ∀ other, other ≠ name → after.destroyed.find? other = before.destroyed.find? other
  own : match kind with
    | .create => before.records.find? name = none ∧ after.has name = true ∧
        after.destroyed.find? name = none
    | .update => before.has name = true ∧ after.has name = true ∧
        after.destroyed.find? name = before.destroyed.find? name
    | .destroy => ∃ record, before.records.find? name = some record ∧
        after.records.find? name = none ∧ after.destroyed.find? name = some record

end Host

namespace Mutation

/-- The change that a mutation commits, if it commits one, and the host after it. -/
def commit (host : Host) : Mutation → Option Change × Host
  | create entityType fields =>
      match host.create entityType fields with
      | (.ok id, after) => (some ⟨.create, entityType, id⟩, after)
      | (.error _, after) => (none, after)
  | update entityType id changes =>
      match host.update entityType id changes with
      | .ok (_, after) => (some ⟨.update, entityType, id⟩, after)
      | .error _ => (none, host)
  | destroy entityType id =>
      match host.destroy entityType id with
      | .ok (true, after) => (some ⟨.destroy, entityType, id⟩, after)
      | _ => (none, host)

def change? (mutation : Mutation) (host : Host) : Option Change := (mutation.commit host).1

def after (mutation : Mutation) (host : Host) : Host := (mutation.commit host).2

/-- The host after mutations in a row. -/
def afterAll (host : Host) (mutations : List Mutation) : Host := Run.afterAll after host mutations

theorem afterAll_cons (host : Host) (mutation : Mutation) (rest : List Mutation) :
    afterAll host (mutation :: rest) = afterAll (mutation.after host) rest := rfl

/-- The changes that mutations in a row commit, in order, each with the host right after it. -/
def commits (host : Host) : List Mutation → List (Change × Host)
  | [] => []
  | mutation :: rest =>
      ((mutation.change? host).map fun change => (change, mutation.after host)).toList ++
        commits (mutation.after host) rest

/-- The changes that mutations in a row commit, in order. -/
def changes (host : Host) : List Mutation → List Change
  | [] => []
  | mutation :: rest => (mutation.change? host).toList ++ changes (mutation.after host) rest

variable {mutation : Mutation} {host before after : Host}

theorem map_fst_commits (host : Host) (mutations : List Mutation) :
    (commits host mutations).map Prod.fst = changes host mutations := by
  induction mutations generalizing host with
  | nil => rfl
  | cons mutation rest inductionHypothesis =>
      rw [commits, changes, List.map_append, inductionHypothesis]
      cases mutation.change? host <;> rfl

/-! ## One mutation -/

theorem assignId_keeps (host : Host) (entityType : String) (given : Value) :
    host.Keeps (host.assignId entityType given).2 := by
  unfold Host.assignId
  split <;> exact ⟨rfl, rfl, rfl, rfl⟩

/-- A creation commits nothing, or adds a record under a key that was free. -/
theorem create_moves {entityType : String} {fields : Fields} {outcome : Except Failure Value}
    (created : before.create entityType fields = (outcome, after)) :
    (∃ failure, outcome = .error failure) ∧ before.Keeps after ∨
      ∃ id key, outcome = .ok id ∧ id.key = .ok key ∧
        id = (before.assignId entityType ((fields.find? "id").getD .nothing)).1 ∧
        after.records.find? (entityType, key) = some ⟨id, fields.erase "id"⟩ ∧
        Host.Moves .create (entityType, key) before after := by
  have kept := assignId_keeps before entityType ((fields.find? "id").getD .nothing)
  unfold Host.create at created
  cases given : before.assignId entityType ((fields.find? "id").getD .nothing) with
  | mk id numbered =>
      rw [given] at created kept
      dsimp only at created kept
      cases isKey : id.key with
      | error failure =>
          rw [isKey] at created
          cases created
          exact Or.inl ⟨⟨_, rfl⟩, kept⟩
      | ok key =>
          rw [isKey] at created
          dsimp only at created
          split at created
          · cases created
            exact Or.inl ⟨⟨_, rfl⟩, kept⟩
          · rename_i free
            cases created
            rw [Table.contains_eq_isSome, kept.records] at free
            refine Or.inr ⟨id, key, rfl, isKey, rfl, by simp [Table.find?_insert],
              kept.relations, kept.outage, ?_, ?_, ?_⟩
            · intro other different
              simp only [Table.find?_insert, if_neg different, kept.records]
            · intro other different
              simp only [Table.find?_erase, if_neg different, kept.destroyed]
            · refine ⟨by simpa using free, ?_, ?_⟩
              · simp [Host.has, Table.find?_insert]
              · simp [Table.find?_erase]

/-- An update that succeeds changes the fields of a record that is there. -/
theorem update_moves {entityType : String} {id : Value} {changes fields : Fields}
    (updated : before.update entityType id changes = .ok (fields, after)) :
    ∃ key record, id.key = .ok key ∧ before.records.find? (entityType, key) = some record ∧
      after.records.find? (entityType, key) =
        some { record with fields := record.fields.insertAll changes.rows } ∧
      Host.Moves .update (entityType, key) before after := by
  unfold Host.update at updated
  split at updated
  · simp [throw, throwThe, MonadExceptOf.throw, bind, Except.bind] at updated
  · cases isKey : id.key with
    | error failure => simp [isKey, bind, Except.bind] at updated
    | ok key =>
        simp only [isKey, bind, Except.bind, pure, Except.pure] at updated
        split at updated
        · simp [throw, throwThe, MonadExceptOf.throw] at updated
        · rename_i record found
          simp only [Except.ok.injEq, Prod.mk.injEq] at updated
          obtain ⟨-, rfl⟩ := updated
          refine ⟨key, record, rfl, found, by simp [Table.find?_modify, found], rfl, rfl, ?_,
            fun other _ => rfl, ?_⟩
          · intro other different
            simp only [Table.find?_modify, if_neg different]
          · refine ⟨by simp [Host.has, found], ?_, rfl⟩
            simp [Host.has, Table.find?_modify, found]

/-- A destruction that finds a record removes it, and keeps it as it was last. -/
theorem destroy_moves {entityType : String} {id : Value}
    (destroyed : before.destroy entityType id = .ok (true, after)) :
    ∃ key, id.key = .ok key ∧ Host.Moves .destroy (entityType, key) before after := by
  unfold Host.destroy at destroyed
  split at destroyed
  · simp [pure, Except.pure] at destroyed
  · cases isKey : id.key with
    | error failure => simp [isKey, bind, Except.bind] at destroyed
    | ok key =>
        simp only [isKey, bind, Except.bind, pure, Except.pure] at destroyed
        split at destroyed
        · simp at destroyed
        · rename_i record found
          simp only [Except.ok.injEq, Prod.mk.injEq, true_and] at destroyed
          subst destroyed
          refine ⟨key, rfl, rfl, rfl, ?_, ?_, record, found, ?_, ?_⟩
          · intro other different
            simp only [Table.find?_erase, if_neg different]
          · intro other different
            simp only [Table.find?_insert, if_neg different]
          · simp [Table.find?_erase]
          · simp [Table.find?_insert]

theorem eq_of_undestroyed {entityType : String} {id : Value}
    (undestroyed : before.destroy entityType id = .ok (false, after)) : after = before := by
  unfold Host.destroy at undestroyed
  split at undestroyed
  · cases undestroyed
    rfl
  · cases isKey : id.key with
    | error failure => simp [isKey, bind, Except.bind] at undestroyed
    | ok key =>
        simp only [isKey, bind, Except.bind, pure, Except.pure] at undestroyed
        split at undestroyed
        · cases undestroyed
          rfl
        · simp at undestroyed

/-- A mutation that commits nothing leaves all records alone. -/
theorem keeps_of_uncommitted (uncommitted : mutation.change? host = none) :
    host.Keeps (mutation.after host) := by
  unfold change? at uncommitted
  unfold Mutation.after
  cases mutation with
  | create entityType fields =>
      cases created : host.create entityType fields with
      | mk outcome after =>
          simp only [commit, created] at uncommitted ⊢
          rcases create_moves created with ⟨⟨failure, rfl⟩, kept⟩ | ⟨id, key, rfl, -⟩
          · exact kept
          · cases uncommitted
  | update entityType id changes =>
      simp only [commit] at uncommitted ⊢
      split at uncommitted
      · cases uncommitted
      · exact ⟨rfl, rfl, rfl, rfl⟩
  | destroy entityType id =>
      simp only [commit] at uncommitted ⊢
      split at uncommitted
      · cases uncommitted
      · exact ⟨rfl, rfl, rfl, rfl⟩

/-- A committed change moves the record that it names. -/
theorem moves_of_committed {change : Change} (committed : mutation.change? host = some change) :
    ∃ key, change.id.key = .ok key ∧
      Host.Moves change.kind (change.entityType, key) host (mutation.after host) := by
  unfold change? at committed
  unfold Mutation.after
  cases mutation with
  | create entityType fields =>
      cases created : host.create entityType fields with
      | mk outcome after =>
          simp only [commit, created] at committed ⊢
          rcases create_moves created with
            ⟨⟨failure, rfl⟩, -⟩ | ⟨id, key, rfl, isKey, -, -, moves⟩
          · cases committed
          · cases committed
            exact ⟨key, isKey, moves⟩
  | update entityType id changes =>
      simp only [commit] at committed ⊢
      split at committed
      · rename_i fields after updated
        cases committed
        obtain ⟨key, record, isKey, -, -, moves⟩ := update_moves updated
        exact ⟨key, isKey, moves⟩
      · cases committed
  | destroy entityType id =>
      simp only [commit] at committed ⊢
      split at committed
      · rename_i after destroyed
        cases committed
        exact destroy_moves destroyed
      · cases committed

/-- A creation that is committed stores its fields under its id. -/
theorem stored_of_created {entityType : String} {fields : Fields} {id : Id}
    (committed : (create entityType fields).change? host = some ⟨.create, entityType, id.value⟩) :
    ((create entityType fields).after host).records.find? (entityType, id.key) =
      some ⟨id.value, fields.erase "id"⟩ := by
  unfold change? at committed
  unfold Mutation.after
  cases created : host.create entityType fields with
  | mk outcome after =>
      simp only [commit, created] at committed ⊢
      rcases create_moves created with ⟨⟨failure, rfl⟩, -⟩ | ⟨given, key, rfl, isKey, -, stored, -⟩
      · cases committed
      · simp only [Option.some.injEq, Change.mk.injEq, true_and] at committed
        subst committed
        rw [Value.key_value] at isKey
        cases isKey
        exact stored

end Mutation

/-! ## The life of one record -/

namespace Change

/-- Whether a change is one of the record under a key. -/
def concerns (name : String × Key) (change : Change) : Bool :=
  match change.id.key with
  | .ok key => decide ((change.entityType, key) = name)
  | .error _ => false

theorem concerns_iff {name : String × Key} {change : Change} {key : Key}
    (isKey : change.id.key = .ok key) :
    change.concerns name = true ↔ (change.entityType, key) = name := by
  simp [concerns, isKey]

/-- What happened to the record under a key, in order. -/
def kindsOf (name : String × Key) (changes : List Change) : List ChangeKind :=
  (changes.filter fun change => change.concerns name).map Change.kind

end Change

namespace ChangeKind

/-- Whether a record is there after a change; nothing if there can be no such change. -/
def step (live : Bool) : ChangeKind → Option Bool
  | .create => if live then none else some true
  | .update => if live then some true else none
  | .destroy => if live then some false else none

/-- Creations, updates and destructions of a record in turns: it is created exactly when it is not
there, and it is there at last unless the last change is its destruction. -/
structure Alternates (live : Bool) (kinds : List ChangeKind) (last : Bool) : Prop where
  first : ∀ kind, kinds.head? = some kind → (kind = .create ↔ live = false)
  next : kinds.IsChain fun earlier later => later = .create ↔ earlier = .destroy
  untouched : kinds = [] → last = live
  final : ∀ kind, kinds.getLast? = some kind → (last = true ↔ kind ≠ .destroy)

/-- Possible changes in a row alternate. The induction is on the changes: what comes after the first
one starts from what that one leaves. -/
theorem alternates_of_steps {kinds : List ChangeKind} {live last : Bool}
    (steps : kinds.foldlM step live = some last) : Alternates live kinds last := by
  induction kinds generalizing live with
  | nil =>
      cases steps
      exact ⟨nofun, .nil, fun _ => rfl, nofun⟩
  | cons kind rest inductionHypothesis =>
      rw [List.foldlM_cons] at steps
      obtain ⟨middle, stepped, others⟩ := Option.bind_eq_some_iff.1 steps
      have later := inductionHypothesis others
      have created : kind = .create ↔ live = false := by
        cases kind <;> cases live <;> simp_all [step]
      have destroyed : middle = false ↔ kind = .destroy := by
        cases kind <;> cases live <;> simp_all [step]
      refine ⟨?_, ?_, nofun, ?_⟩
      · rintro _ ⟨⟩
        exact created
      · refine List.isChain_cons.2 ⟨fun other isNext => ?_, later.next⟩
        rw [later.first other isNext, destroyed]
      · intro other isLast
        cases rest with
        | nil =>
            cases isLast
            rw [later.untouched rfl, ← Bool.not_eq_false, destroyed]
            exact Iff.rfl
        | cons second more =>
            rw [List.getLast?_cons_cons] at isLast
            exact later.final other isLast

end ChangeKind

namespace Mutation

variable {host before after : Host} {name : String × Key}

theorem step_of_moves {kind : ChangeKind} (moves : Host.Moves kind name before after) :
    kind.step (before.has name) = some (after.has name) := by
  have own := moves.own
  cases kind with
  | create =>
      obtain ⟨absent, present, -⟩ := own
      have free : before.has name = false := by simp [Host.has, absent]
      simp [ChangeKind.step, free, present]
  | update =>
      obtain ⟨present, remains, -⟩ := own
      simp [ChangeKind.step, present, remains]
  | destroy =>
      obtain ⟨record, found, gone, -⟩ := own
      simp [ChangeKind.step, Host.has, found, gone]

/-- The changes of each record that mutations in a row commit alternate, and lead to what the host
holds of it at last. -/
theorem lives_afterAll (host : Host) (mutations : List Mutation) (name : String × Key) :
    (Change.kindsOf name (changes host mutations)).foldlM ChangeKind.step (host.has name) =
      some ((afterAll host mutations).has name) := by
  induction mutations generalizing host with
  | nil => rfl
  | cons mutation rest inductionHypothesis =>
      have later := inductionHypothesis (mutation.after host)
      rw [changes, afterAll_cons, Change.kindsOf, List.filter_append, List.map_append,
        List.foldlM_append]
      cases committed : mutation.change? host with
      | none =>
          have kept := keeps_of_uncommitted committed
          have same : host.has name = (mutation.after host).has name := by
            rw [Host.has, Host.has, kept.records]
          rw [same]
          exact later
      | some change =>
          obtain ⟨key, isKey, moves⟩ := moves_of_committed committed
          by_cases concerned : (change.entityType, key) = name
          · have concerns := (Change.concerns_iff isKey).2 concerned
            rw [concerned] at moves
            simp only [Option.toList_some, List.filter_cons_of_pos concerns, List.filter_nil,
              List.map_cons, List.map_nil, List.foldlM_cons, List.foldlM_nil,
              step_of_moves moves]
            exact later
          · have unconcerned : ¬ change.concerns name = true :=
              fun concerns => concerned ((Change.concerns_iff isKey).1 concerns)
            have same : host.has name = (mutation.after host).has name := by
              rw [Host.has, Host.has, moves.records name fun isName => concerned isName.symm]
            rw [Option.toList_some, List.filter_cons_of_neg unconcerned, same]
            exact later

/-- The changes of each record alternate, and lead to what the host holds of it at last. -/
theorem alternates_afterAll (host : Host) (mutations : List Mutation) (name : String × Key) :
    ChangeKind.Alternates (host.has name) (Change.kindsOf name (changes host mutations))
      ((afterAll host mutations).has name) :=
  ChangeKind.alternates_of_steps (lives_afterAll host mutations name)

/-- What is not there and is not created does not change. -/
theorem unconcerned_of_uncreated {mutations : List Mutation} (absent : host.has name = false)
    (uncreated : ∀ change ∈ changes host mutations,
      change.concerns name = true → change.kind ≠ .create) :
    ∀ change ∈ changes host mutations, ¬ change.concerns name = true := by
  intro change member concerns
  have isKind : change.kind ∈ Change.kindsOf name (changes host mutations) :=
    List.mem_map_of_mem (List.mem_filter.2 ⟨member, concerns⟩)
  cases kinds : Change.kindsOf name (changes host mutations) with
  | nil =>
      rw [kinds] at isKind
      cases isKind
  | cons first rest =>
      have isFirst : first ∈ Change.kindsOf name (changes host mutations) := by simp [kinds]
      obtain ⟨earliest, among, rfl⟩ := List.mem_map.1 isFirst
      obtain ⟨isChange, itConcerns⟩ := List.mem_filter.1 among
      have created : earliest.kind = .create :=
        ((alternates_afterAll host mutations name).first _ (by rw [kinds]; rfl)).2 absent
      exact uncreated earliest isChange itConcerns created

/-! ## What stays -/

/-- No mutation declares a relation, or makes look-ups fail. -/
theorem declares_after (mutation : Mutation) (host : Host) :
    (mutation.after host).relations = host.relations ∧
      (mutation.after host).outage = host.outage := by
  cases committed : mutation.change? host with
  | none =>
      have kept := keeps_of_uncommitted committed
      exact ⟨kept.relations, kept.outage⟩
  | some change =>
      obtain ⟨key, -, moves⟩ := moves_of_committed committed
      exact ⟨moves.relations, moves.outage⟩

theorem declares_afterAll (mutations : List Mutation) (host : Host) :
    (afterAll host mutations).relations = host.relations ∧
      (afterAll host mutations).outage = host.outage := by
  have keeps : Run.Keeps after (fun _ _ => True) fun state =>
      state.relations = host.relations ∧ state.outage = host.outage := by
    rintro state mutation ⟨relations, outage⟩ -
    obtain ⟨relationsAfter, outageAfter⟩ := declares_after mutation state
    exact ⟨relationsAfter.trans relations, outageAfter.trans outage⟩
  exact keeps.afterAll ⟨rfl, rfl⟩ (Run.along_of_forall fun _ _ => trivial)

/-- What was last known of a record outlives its destruction; only its creation and its updates
change it. -/
theorem lastKnown_of_moves {entityType : String} {key : Key} {kind : ChangeKind}
    {other : String × Key} (moves : Host.Moves kind other before after)
    (unwritten : (entityType, key) = other → kind = .destroy) :
    after.lastKnown entityType key = before.lastKnown entityType key := by
  unfold Host.lastKnown
  by_cases isOther : (entityType, key) = other
  · obtain rfl := unwritten isOther
    subst isOther
    obtain ⟨record, found, gone, kept⟩ := moves.own
    rw [found, gone, kept]
    rfl
  · rw [moves.records _ isOther, moves.destroyed _ isOther]

/-- Along mutations that neither create nor update a record, it is known as it was. -/
theorem lastKnown_afterAll {entityType : String} {key : Key} {mutations : List Mutation}
    (unwritten : ∀ change ∈ changes host mutations,
      change.concerns (entityType, key) = true → change.kind = .destroy) :
    (afterAll host mutations).lastKnown entityType key = host.lastKnown entityType key := by
  induction mutations generalizing host with
  | nil => rfl
  | cons mutation rest inductionHypothesis =>
      simp only [changes, List.mem_append] at unwritten
      rw [afterAll_cons, inductionHypothesis fun change member => unwritten change (Or.inr member)]
      cases committed : mutation.change? host with
      | none =>
          have kept := keeps_of_uncommitted committed
          rw [Host.lastKnown, Host.lastKnown, kept.records, kept.destroyed]
      | some change =>
          obtain ⟨changed, isKey, moves⟩ := moves_of_committed committed
          refine lastKnown_of_moves moves fun isRecord => ?_
          exact unwritten change (Or.inl (by simp [committed]))
            ((Change.concerns_iff isKey).2 isRecord.symm)

end Mutation

end ShadowIndex
