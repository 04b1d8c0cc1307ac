import ShadowIndex.Proofs.Host.Changes

/-!
Contract: what commits do to a host in order.

Owns:
- `Host.Takes`, fields that records of a type can be given;
- the host after a creation, an update and a destruction (`create_inv`, `update_inv`,
  `destroy_cases`), each of which changes one record only and keeps the host in order.

Does not own: who is told of commits.
-/

set_option autoImplicit false

namespace ShadowIndex

namespace Host

/-- Fields that a record of a type can be given: they are steady, and those that are foreign keys
hold ids or nothing. -/
def Takes (host : Host) (entityType : String) (fields : Fields) : Prop :=
  ∀ row ∈ fields.rows,
    row.2.IsSteady ∧ (host.IsForeignKey entityType row.1 → row.2.IsReference)

variable {ids : Id → Prop} {owner : Ref} {before after : Host}
variable {entityType : String} {id : Id} {fields changes : Fields}

/-- Texts, numbers and nothing can be given to every record. -/
theorem takes_of_references {rows : List (String × Value)}
    (references : ∀ row ∈ rows, row.2.IsReference) : before.Takes entityType (.ofList rows) := by
  intro row member
  have listed : row ∈ rows := by
    have found := (Table.find?_eq_some_iff _ _ _).2 member
    rcases Table.find?_insertAll_cases found with given | impossible
    · exact given
    · cases impossible
  have reference := references row listed
  refine ⟨?_, fun _ => reference⟩
  rcases reference with nothing | ⟨id, isId⟩
  · rw [nothing]
    exact Value.isSteady_of_solid rfl
  · rw [isId]
    cases id <;> exact Value.isSteady_of_solid rfl

/-! ## One record -/

theorem isForeignKey_of_relations (same : after.relations = before.relations) {field : String}
    (foreign : after.IsForeignKey entityType field) : before.IsForeignKey entityType field := by
  obtain ⟨name, relation, declared, isKey, isType⟩ := foreign
  rw [same] at declared
  exact ⟨name, relation, declared, isKey, isType⟩

/-- A host stays in order if the record that changed is in order, and no other is remembered. -/
theorem IsOrderly.of_changesOnly (orderly : before.IsOrderly ids)
    (changes : ChangesOnly owner before after) (known : ids owner.id)
    (own : ∀ record, after.records.find? (owner.entityType, owner.id.key) = some record →
      record.id = owner.id.value ∧
      ∀ field value, record.fields.find? field = some value → value.IsSteady ∧
        (before.IsForeignKey owner.entityType field → value.IsReference))
    (past : ∀ record, after.destroyed.find? (owner.entityType, owner.id.key) = some record →
      before.records.find? (owner.entityType, owner.id.key) = some record ∨
        before.destroyed.find? (owner.entityType, owner.id.key) = some record) :
    after.IsOrderly ids where
  serving := changes.outage.trans orderly.serving
  named := by
    intro name relation declared
    rw [changes.relations] at declared
    exact orderly.named name relation declared
  keyed := (changes.isKeyed orderly.isKeyed known fun record found => (own record found).1).keyed
  referring := by
    intro entityType key record found field foreign
    have foreignBefore := isForeignKey_of_relations changes.relations foreign
    by_cases isOwner : (entityType, key) = (owner.entityType, owner.id.key)
    · obtain ⟨rfl, rfl⟩ := Prod.mk.inj isOwner
      rcases found with present | gone
      · unfold held
        cases value? : record.fields.find? field with
        | none => exact Or.inl rfl
        | some value => exact ((own record present).2 field value value?).2 foreignBefore
      · exact orderly.referring _ _ record (past record gone) field foreignBefore
    · rw [changes.record_of_ne isOwner,
        ChangesOnly.find?_of_ne changes.destroyed isOwner] at found
      exact orderly.referring entityType key record found field foreignBefore
  steady := by
    intro name record found field value value?
    by_cases isOwner : name = (owner.entityType, owner.id.key)
    · subst isOwner
      exact ((own record found).2 field value value?).1
    · rw [changes.record_of_ne isOwner] at found
      exact orderly.steady name record found field value value?

theorem fieldOf_of_absent (absent : before.records.find? (owner.entityType, owner.id.key) = none)
    (field : String) : before.fieldOf owner field = .nothing := by
  simp [fieldOf, absent]

/-- What a record holds is also what was last known of it. -/
theorem lastFieldOf_of_present {record : HostRecord}
    (present : before.records.find? (owner.entityType, owner.id.key) = some record)
    (field : String) : before.lastFieldOf owner field = before.fieldOf owner field := by
  simp [lastFieldOf, lastKnown, fieldOf, present]

/-! ## Creation -/

/-- A creation fails and leaves all records as they were, or adds one that was not there. -/
theorem create_inv {outcome : Except Failure Value}
    (assigned : (before.assignId entityType ((fields.find? "id").getD .nothing)).1 = id.value)
    (created : before.create entityType fields = (outcome, after)) :
    ∃ counters, (∃ failure, outcome = .error failure) ∧ after = { before with counters := counters } ∨
      outcome = .ok id.value ∧ before.records.find? (entityType, id.key) = none ∧
        after = { before with
          counters := counters
          records := before.records.insert (entityType, id.key) ⟨id.value, fields.erase "id"⟩
          destroyed := before.destroyed.erase (entityType, id.key) } := by
  have numbered : ∃ counters,
      before.assignId entityType ((fields.find? "id").getD .nothing) =
        (id.value, { before with counters := counters }) := by
    unfold assignId at assigned ⊢
    split
    · rename_i isNothing
      simp only [isNothing, if_true] at assigned
      exact ⟨before.counters.insert entityType (before.nextNumber entityType + 1), by
        dsimp only
        rw [assigned]⟩
    · rename_i isSomething
      simp only [isSomething, Bool.false_eq_true, if_false] at assigned
      exact ⟨before.counters, by rw [assigned]⟩
  obtain ⟨counters, given⟩ := numbered
  refine ⟨counters, ?_⟩
  simp only [create, given, Value.key_value, Table.contains_eq_isSome] at created
  by_cases present : (before.records.find? (entityType, id.key)).isSome = true
  · simp only [present, if_true, Prod.mk.injEq] at created
    exact Or.inl ⟨⟨_, created.1.symm⟩, created.2.symm⟩
  · simp only [present, Bool.false_eq_true, if_false, Prod.mk.injEq] at created
    exact Or.inr ⟨created.1.symm, by simpa using present, created.2.symm⟩

section Creation

variable {record : HostRecord} {counters : Table String Nat}
variable (added : after = { before with
  counters := counters
  records := before.records.insert (entityType, id.key) ⟨id.value, fields.erase "id"⟩
  destroyed := before.destroyed.erase (entityType, id.key) })
include added

theorem changesOnly_create : ChangesOnly ⟨entityType, id⟩ before after := by
  subst added
  exact ⟨rfl, rfl, Table.erase_insert _ _ _, Table.erase_erase _ _⟩

theorem find?_create : after.records.find? (entityType, id.key) =
    some ⟨id.value, fields.erase "id"⟩ := by
  subst added
  rw [Table.find?_insert, if_pos rfl]

theorem IsOrderly.create (orderly : before.IsOrderly ids) (known : ids id)
    (takes : before.Takes entityType fields) : after.IsOrderly ids := by
  apply orderly.of_changesOnly (changesOnly_create added) known
  · intro record found
    rw [find?_create added] at found
    cases found
    refine ⟨rfl, fun field value value? => ?_⟩
    rw [Table.find?_erase] at value?
    split at value?
    · cases value?
    · exact takes _ ((Table.find?_eq_some_iff _ _ _).1 value?)
  · intro record gone
    subst added
    rw [Table.find?_erase, if_pos rfl] at gone
    cases gone

end Creation

/-! ## Updates -/

/-- An update that succeeds gives new fields to a record that is there. -/
theorem update_inv {given : Fields}
    (updated : before.update entityType id.value changes = .ok (given, after)) :
    ∃ record, before.records.find? (entityType, id.key) = some record ∧
      after = { before with
        records := before.records.modify (entityType, id.key) fun present =>
          { present with fields := record.fields.insertAll changes.rows } } := by
  unfold update at updated
  split at updated
  · simp [throw, throwThe, MonadExceptOf.throw, bind, Except.bind] at updated
  · simp only [Value.key_value, bind, Except.bind, pure, Except.pure] at updated
    split at updated
    · simp [throw, throwThe, MonadExceptOf.throw] at updated
    · rename_i record found
      simp only [Except.ok.injEq, Prod.mk.injEq] at updated
      exact ⟨record, found, updated.2.symm⟩

section Update

variable {record : HostRecord}
variable (found : before.records.find? (entityType, id.key) = some record)
variable (changed : after = { before with
  records := before.records.modify (entityType, id.key) fun present =>
    { present with fields := record.fields.insertAll changes.rows } })
include changed

theorem changesOnly_update : ChangesOnly ⟨entityType, id⟩ before after := by
  subst changed
  exact ⟨rfl, rfl, Table.erase_modify _ _ _, rfl⟩

include found

theorem find?_update : after.records.find? (entityType, id.key) =
    some { record with fields := record.fields.insertAll changes.rows } := by
  subst changed
  rw [Table.find?_modify, if_pos rfl, found]
  rfl

theorem IsOrderly.update (orderly : before.IsOrderly ids)
    (takes : before.Takes entityType changes) : after.IsOrderly ids := by
  obtain ⟨other, isId, isKey, known⟩ := orderly.keyed _ _ _ found
  obtain rfl : id = other := Id.key_injective isKey
  apply orderly.of_changesOnly (changesOnly_update changed) known
  · intro updated foundAfter
    rw [find?_update found changed] at foundAfter
    cases foundAfter
    refine ⟨isId, fun field value value? => ?_⟩
    rcases Table.find?_insertAll_cases value? with member | earlier
    · exact takes _ member
    · refine ⟨orderly.steady _ _ found field value earlier, fun foreign => ?_⟩
      have reference := orderly.referring _ _ record (Or.inl found) field foreign
      rwa [held, earlier] at reference
  · intro former gone
    subst changed
    exact Or.inr gone

end Update

/-! ## Destruction -/

/-- A destruction finds nothing, or moves a record to those that are remembered. It never fails. -/
theorem destroy_cases (before : Host) (entityType : String) (id : Id) :
    before.destroy entityType id.value = .ok (false, before) ∧
        before.records.find? (entityType, id.key) = none ∨
      ∃ record after, before.destroy entityType id.value = .ok (true, after) ∧
        before.records.find? (entityType, id.key) = some record ∧
        after = { before with
          records := before.records.erase (entityType, id.key)
          destroyed := before.destroyed.insert (entityType, id.key) record } := by
  cases found : before.records.find? (entityType, id.key) with
  | none =>
      left
      simp [destroy, Value.key_value, bind, Except.bind, pure, Except.pure, found]
  | some record =>
      right
      have listed : record ∈ before.ofType entityType := (mem_ofType_iff record).2 ⟨_, found⟩
      have some_listed : (before.ofType entityType).isEmpty = false := by
        simpa using List.ne_nil_of_mem listed
      refine ⟨record, _, ?_, rfl, rfl⟩
      simp [destroy, some_listed, Value.key_value, bind, Except.bind, pure, Except.pure, found]

section Destruction

variable {record : HostRecord}
variable (found : before.records.find? (entityType, id.key) = some record)
variable (removed : after = { before with
  records := before.records.erase (entityType, id.key)
  destroyed := before.destroyed.insert (entityType, id.key) record })
include removed

theorem changesOnly_destroy : ChangesOnly ⟨entityType, id⟩ before after := by
  subst removed
  exact ⟨rfl, rfl, Table.erase_erase _ _, Table.erase_insert _ _ _⟩

theorem find?_destroy : after.records.find? (entityType, id.key) = none := by
  subst removed
  rw [Table.find?_erase, if_pos rfl]

include found

/-- What a destroyed record held is remembered. -/
theorem lastFieldOf_destroy (field : String) :
    after.lastFieldOf ⟨entityType, id⟩ field = before.fieldOf ⟨entityType, id⟩ field := by
  have gone := find?_destroy removed
  subst removed
  simp [lastFieldOf, lastKnown, fieldOf, gone, found, Table.find?_insert]

theorem IsOrderly.destroy (orderly : before.IsOrderly ids) : after.IsOrderly ids := by
  obtain ⟨other, isId, isKey, known⟩ := orderly.keyed _ _ _ found
  obtain rfl : id = other := Id.key_injective isKey
  apply orderly.of_changesOnly (changesOnly_destroy removed) known
  · intro present foundAfter
    rw [find?_destroy removed] at foundAfter
    cases foundAfter
  · intro former gone
    subst removed
    rw [Table.find?_insert, if_pos rfl] at gone
    cases gone
    exact Or.inl found

end Destruction

/-- A host with other counters is in the same order. -/
theorem IsOrderly.of_counters (orderly : before.IsOrderly ids) (counters : Table String Nat) :
    ({ before with counters := counters } : Host).IsOrderly ids :=
  ⟨orderly.serving, orderly.named, orderly.keyed, orderly.referring, orderly.steady⟩

end Host

end ShadowIndex
