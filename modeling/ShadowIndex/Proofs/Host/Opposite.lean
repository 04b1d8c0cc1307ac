import ShadowIndex.Proofs.Host.Candidates
import ShadowIndex.Proofs.Host.Mutation
import ShadowIndex.Proofs.Host.Relations

/-!
Contract: two relations over one foreign key, seen from both of their ends.

Owns:
- `Value.IsPlainKey`, what foreign keys hold, and the one id that such a value equals;
- `Pairing`, a relation by which records belong to others and the one by which those have them;
- both relations resolve from any record, live or destroyed, and each is the converse of the other
  (`Pairing.mirrors_along_mutations`).

Does not own: relations whose look-up fails.
-/

set_option autoImplicit false

namespace ShadowIndex

/-! ## Foreign keys -/

namespace Value

/-- Nothing, an id or a truth value, as a foreign key holds it. -/
def IsPlainKey (value : Value) : Prop := value.IsReference ∨ ∃ truth, value = .bool truth

/-- Whether a value equals an id. -/
def Names (value : Value) (id : Id) : Prop := value.same id.value = true

/-- A foreign key is nothing and equals no id, or it is read as the one id that it equals. -/
theorem IsPlainKey.cases {value : Value} (plain : value.IsPlainKey) :
    (value.isNothing = true ∧ ∀ id, ¬ value.Names id) ∨
      ∃ id : Id, value.isNothing = false ∧ value.key = .ok id.key ∧
        (∀ location, value.checkId location = .ok id) ∧ ∀ other, value.Names other ↔ other = id := by
  rcases plain with (rfl | ⟨id, rfl⟩) | ⟨truth, rfl⟩
  · exact Or.inl ⟨rfl, fun id => by cases id <;> simp [Names, same, sameScalar, Id.value]⟩
  · refine Or.inr ⟨id, by cases id <;> rfl, key_value id, fun _ => checkId_value _ id, ?_⟩
    exact fun other => (same_value_iff id other).trans eq_comm
  · -- A truth value equals the integer of its number, and is read as this integer.
    refine Or.inr ⟨.int truth.toInt, rfl, rfl, fun _ => rfl, fun other => ?_⟩
    cases other with
    | int whole =>
        simp only [Names, same, sameScalar, Id.value, beq_iff_eq, Id.int.injEq]
        exact eq_comm
    | str text => simp [Names, same, sameScalar, Id.value]

end Value

namespace Host

/-- References to the live records of a type with ids of a certain kind, each once. -/
structure Lists (host : Host) (entityType : String) (ids : Id → Prop) (refs : List Ref) : Prop where
  nodup : refs.Nodup
  mem_iff : ∀ ref, ref ∈ refs ↔ ref.entityType = entityType ∧ host.IsLive ref ∧ ids ref.id

variable {host : Host} {entityType : String}

theorem mapM_checkedRef_eq (named : entityType ≠ "") {records : List HostRecord} {ids : List Id}
    (areIds : records.map HostRecord.id = ids.map Id.value) :
    records.mapM (fun record => checkedRef entityType record.id) =
      .ok (ids.map (Ref.mk entityType)) := by
  induction records generalizing ids with
  | nil =>
      obtain rfl := List.map_eq_nil_iff.1 areIds.symm
      rfl
  | cons record rest inductionHypothesis =>
      cases ids with
      | nil => cases areIds
      | cons id others =>
          obtain ⟨isId, areOthers⟩ := List.cons.inj areIds
          rw [List.mapM_cons, isId, checkedRef_value named, inductionHypothesis areOthers]
          rfl

theorem lastFieldOf_of_isLive {owner : Ref} (live : host.IsLive owner) (field : String) :
    host.lastFieldOf owner field = host.fieldOf owner field := by
  obtain ⟨record, found⟩ := Option.isSome_iff_exists.1 live
  simp [lastFieldOf, fieldOf, lastKnown, found]

/-- The records of a type that pass a test, by their ids. -/
theorem IsKeyed.ids_of_filter {known : Id → Prop} (keyed : host.IsKeyed known)
    (entityType : String) (test : HostRecord → Bool) :
    ∃ ids : List Id,
      ((host.ofType entityType).filter test).map HostRecord.id = ids.map Id.value ∧ ids.Nodup ∧
        ∀ id, id ∈ ids ↔ ∃ record,
          host.records.find? (entityType, id.key) = some record ∧ test record = true := by
  obtain ⟨all, enumerates⟩ := keyed.enumerates entityType
  have fewer : (((host.ofType entityType).filter test).map HostRecord.id).Sublist
      (all.map Id.value) := by
    rw [← enumerates.map_id keyed]
    exact List.filter_sublist.map HostRecord.id
  obtain ⟨ids, sublist, areIds⟩ := List.sublist_map_iff.1 fewer
  refine ⟨ids, areIds, sublist.nodup enumerates.nodup, fun id => ?_⟩
  rw [← List.mem_map_of_injective fun _ _ => Id.value_injective, ← areIds]
  simp only [List.mem_map, List.mem_filter, mem_ofType_iff]
  constructor
  · rintro ⟨record, ⟨⟨key, found⟩, passes⟩, isId⟩
    obtain ⟨other, isOther, rfl, -⟩ := keyed.keyed entityType key record found
    obtain rfl : other = id := Id.value_injective (isOther.symm.trans isId)
    exact ⟨record, found, passes⟩
  · rintro ⟨record, found, passes⟩
    obtain ⟨other, isId, isKey, -⟩ := keyed.keyed entityType id.key record found
    obtain rfl : id = other := Id.key_injective isKey
    exact ⟨record, ⟨⟨_, found⟩, passes⟩, isId⟩

end Host

/-! ## Pairs of relations -/

/-- Two relations over one foreign key: a record of the source belongs, by the first, to the record
of the target that its key names; which has, by the second, all records whose key names it. -/
structure Pairing where
  source : String
  forward : String
  target : String
  back : String
  key : String

namespace Pairing

/-- Both relations are declared, between named types, and can be looked up. -/
structure IsDeclared (pairing : Pairing) (host : Host) : Prop where
  forward : host.relations.find? (pairing.source, pairing.forward) =
    some ⟨pairing.target, pairing.key, .belongsTo⟩
  back : host.relations.find? (pairing.target, pairing.back) =
    some ⟨pairing.source, pairing.key, .hasMany⟩
  sourceNamed : pairing.source ≠ ""
  targetNamed : pairing.target ≠ ""
  forwardServes : pairing.forward ∉ host.outage.relations
  backServes : pairing.back ∉ host.outage.relations

/-- A host that declares both relations, whose records stand under their ids, and whose foreign keys
are plain, those of destroyed records too. -/
structure IsKept (pairing : Pairing) (host : Host) : Prop where
  declared : pairing.IsDeclared host
  keyed : host.IsKeyed fun _ => True
  plain : ∀ key record, host.records.find? (pairing.source, key) = some record ∨
    host.destroyed.find? (pairing.source, key) = some record →
    (Host.held record pairing.key).IsPlainKey

/-- From a record of the source the live record that a value names is reached, if there is one. -/
def Reaches (pairing : Pairing) (host : Host) (owner : Id) (value : Value) : Prop :=
  ∃ refs, host.resolve pairing.source owner.value pairing.forward = .ok refs ∧ refs.length ≤ 1 ∧
    host.Lists pairing.target value.Names refs

/-- From a record of the target all live records are reached whose key names it. -/
def Gathers (pairing : Pairing) (host : Host) (id : Id) : Prop :=
  ∃ refs, host.resolve pairing.target id.value pairing.back = .ok refs ∧
    host.Lists pairing.source
      (fun owner => (host.fieldOf ⟨pairing.source, owner⟩ pairing.key).Names id) refs

/-- What both relations reach, and that each is the converse of the other among live records. -/
structure Mirrors (pairing : Pairing) (host : Host) : Prop where
  forward : ∀ owner, host.IsLive ⟨pairing.source, owner⟩ →
    pairing.Reaches host owner (host.fieldOf ⟨pairing.source, owner⟩ pairing.key)
  back : ∀ id, pairing.Gathers host id
  dual : ∀ owner id, host.IsLive ⟨pairing.source, owner⟩ → host.IsLive ⟨pairing.target, id⟩ →
    ∃ reached gathered,
      host.resolve pairing.source owner.value pairing.forward = .ok reached ∧
      host.resolve pairing.target id.value pairing.back = .ok gathered ∧
      (⟨pairing.target, id⟩ ∈ reached ↔ ⟨pairing.source, owner⟩ ∈ gathered)

variable {pairing : Pairing} {host before after : Host}

/-- Of any record of the source, its last known key is followed. -/
theorem IsDeclared.reaches (declared : pairing.IsDeclared host) {owner : Id} {value : Value}
    (holds : host.lastFieldOf ⟨pairing.source, owner⟩ pairing.key = value)
    (plain : value.IsPlainKey) : pairing.Reaches host owner value := by
  have resolved : host.resolve pairing.source owner.value pairing.forward =
      (do
        if value.isNothing then return []
        let targetKey ← value.key
        if host.records.contains (pairing.target, targetKey) then
          return [← Host.checkedRef pairing.target value]
        else return []) := by
    rw [← holds]
    simp only [Host.resolve, declared.forwardServes, if_false, declared.forward, Host.resolveOne,
      Value.key_value, Host.held_of_bind]
    rfl
  unfold Reaches
  rw [resolved]
  rcases plain.cases with ⟨isNothing, namesNone⟩ | ⟨id, isSomething, isKey, isId, namesOne⟩
  · refine ⟨[], by simp [isNothing, pure, Except.pure], by simp, List.nodup_nil, fun ref => ?_⟩
    simp [namesNone]
  · by_cases present : host.records.contains (pairing.target, id.key) = true
    · refine ⟨[⟨pairing.target, id⟩], ?_, by simp, List.nodup_singleton _, ?_⟩
      · simp [isSomething, isKey, present, bind, Except.bind, pure, Except.pure,
          Host.checkedRef_of_checkId declared.targetNamed (isId ["1"])]
      · rw [Table.contains_eq_isSome] at present
        rintro ⟨refType, refId⟩
        rw [List.mem_singleton, Ref.mk.injEq, namesOne]
        constructor
        · rintro ⟨rfl, rfl⟩
          exact ⟨rfl, present, rfl⟩
        · rintro ⟨isType, -, isNamed⟩
          exact ⟨isType, isNamed⟩
    · refine ⟨[], ?_, by simp, List.nodup_nil, ?_⟩
      · simp [isSomething, isKey, present, bind, Except.bind, pure, Except.pure]
      · rw [Table.contains_eq_isSome] at present
        rintro ⟨refType, refId⟩
        rw [namesOne]
        simp only [List.not_mem_nil, false_iff]
        rintro ⟨rfl, live, rfl⟩
        exact present live

namespace IsKept

variable (kept : pairing.IsKept host)
include kept

theorem gathers (id : Id) : pairing.Gathers host id := by
  obtain ⟨ids, areIds, once, isMember⟩ := kept.keyed.ids_of_filter pairing.source fun record =>
    Value.same (Host.held record pairing.key) id.value
  have resolved : host.resolve pairing.target id.value pairing.back =
      .ok (ids.map (Ref.mk pairing.source)) := by
    rw [← Host.mapM_checkedRef_eq kept.declared.sourceNamed areIds]
    simp only [Host.resolve, kept.declared.backServes, if_false, kept.declared.back]
    rfl
  have injective : Function.Injective (Ref.mk pairing.source) := fun _ _ same => (Ref.mk.inj same).2
  refine ⟨_, resolved, once.map injective, ?_⟩
  rintro ⟨refType, owner⟩
  by_cases isType : refType = pairing.source
  · subst isType
    rw [List.mem_map_of_injective injective, isMember]
    simp only [Host.IsLive, Host.fieldOf, Value.Names, true_and]
    cases host.records.find? (pairing.source, owner.key) <;> simp
  · refine iff_of_false (fun member => isType ?_) fun lists => isType lists.1
    obtain ⟨other, -, isRef⟩ := List.mem_map.1 member
    exact (Ref.mk.inj isRef).1.symm

theorem isPlainKey_fieldOf {owner : Id} (live : host.IsLive ⟨pairing.source, owner⟩) :
    (host.fieldOf ⟨pairing.source, owner⟩ pairing.key).IsPlainKey := by
  obtain ⟨record, found⟩ := Option.isSome_iff_exists.1 live
  have isField : host.fieldOf ⟨pairing.source, owner⟩ pairing.key = Host.held record pairing.key := by
    simp [Host.fieldOf, found]
  rw [isField]
  exact kept.plain _ record (Or.inl found)

theorem reaches_of_isLive {owner : Id} (live : host.IsLive ⟨pairing.source, owner⟩) :
    pairing.Reaches host owner (host.fieldOf ⟨pairing.source, owner⟩ pairing.key) :=
  kept.declared.reaches (Host.lastFieldOf_of_isLive live pairing.key) (kept.isPlainKey_fieldOf live)

/-- Of a live record only its last known key counts, from both ends. -/
theorem gathers_iff {owner : Id} {value : Value}
    (holds : host.lastFieldOf ⟨pairing.source, owner⟩ pairing.key = value) (id : Id) :
    ∃ refs, host.resolve pairing.target id.value pairing.back = .ok refs ∧
      (⟨pairing.source, owner⟩ ∈ refs ↔
        host.IsLive ⟨pairing.source, owner⟩ ∧ value.Names id) := by
  obtain ⟨refs, resolved, gathers⟩ := kept.gathers id
  refine ⟨refs, resolved, ?_⟩
  rw [gathers.mem_iff, ← holds]
  constructor
  · rintro ⟨-, live, names⟩
    rw [← Host.lastFieldOf_of_isLive live] at names
    exact ⟨live, names⟩
  · rintro ⟨live, names⟩
    rw [Host.lastFieldOf_of_isLive live] at names
    exact ⟨rfl, live, names⟩

theorem mirrors : pairing.Mirrors host where
  forward := fun _ live => kept.reaches_of_isLive live
  back := kept.gathers
  dual := by
    intro owner id liveOwner liveTarget
    obtain ⟨reached, isReached, -, reaches⟩ := kept.reaches_of_isLive liveOwner
    obtain ⟨gathered, isGathered, gathers⟩ := kept.gathers id
    refine ⟨reached, gathered, isReached, isGathered, ?_⟩
    rw [reaches.mem_iff, gathers.mem_iff]
    exact ⟨fun lists => ⟨rfl, liveOwner, lists.2.2⟩, fun lists => ⟨rfl, liveTarget, lists.2.2⟩⟩

end IsKept

/-! ## Mutations -/

/-- A mutation that gives ids to new records, and plain keys to records of the source. -/
def Suits (pairing : Pairing) : Mutation → Prop
  | .create entityType fields =>
      ((fields.find? "id").getD .nothing).IsReference ∧
        (entityType = pairing.source →
          ∀ value, (fields.erase "id").find? pairing.key = some value → value.IsPlainKey)
  | .update entityType _ changes =>
      entityType = pairing.source →
        ∀ value, changes.find? pairing.key = some value → value.IsPlainKey
  | .destroy .. => True

theorem IsDeclared.of_same (declared : pairing.IsDeclared before)
    (same : after.relations = before.relations ∧ after.outage = before.outage) :
    pairing.IsDeclared after where
  forward := by rw [same.1, declared.forward]
  back := by rw [same.1, declared.back]
  sourceNamed := declared.sourceNamed
  targetNamed := declared.targetNamed
  forwardServes := by rw [same.2]; exact declared.forwardServes
  backServes := by rw [same.2]; exact declared.backServes

/-- A host stays as it should if the record that moved is as it should be. -/
theorem IsKept.of_moves (kept : pairing.IsKept before) {kind : ChangeKind} {name : String × Key}
    (moves : Host.Moves kind name before after)
    (own : ∀ record, after.records.find? name = some record →
      (∃ id : Id, record.id = id.value ∧ name.2 = id.key) ∧
        (name.1 = pairing.source → (Host.held record pairing.key).IsPlainKey)) :
    pairing.IsKept after where
  declared := kept.declared.of_same ⟨moves.relations, moves.outage⟩
  keyed := by
    refine ⟨fun entityType key record found => ?_, by rw [moves.outage, kept.keyed.real]⟩
    by_cases isName : (entityType, key) = name
    · subst isName
      obtain ⟨⟨id, isId, isKey⟩, -⟩ := own record found
      exact ⟨id, isId, isKey, trivial⟩
    · rw [moves.records _ isName] at found
      exact kept.keyed.keyed entityType key record found
  plain := by
    intro key record found
    by_cases isName : (pairing.source, key) = name
    · subst isName
      rcases found with present | gone
      · exact (own record present).2 rfl
      · have moved := moves.own
        cases kind with
        | create =>
            obtain ⟨-, -, forgotten⟩ := moved
            rw [forgotten] at gone
            cases gone
        | update =>
            obtain ⟨-, -, same⟩ := moved
            exact kept.plain key record (Or.inr (same ▸ gone))
        | destroy =>
            obtain ⟨former, present, -, remembered⟩ := moved
            rw [remembered] at gone
            cases gone
            exact kept.plain key _ (Or.inl present)
    · rw [moves.records _ isName, moves.destroyed _ isName] at found
      exact kept.plain key record found

theorem isPlainKey_getD {fields : Fields} {key : String}
    (plain : ∀ value, fields.find? key = some value → value.IsPlainKey) :
    ((fields.find? key).getD .nothing).IsPlainKey := by
  cases found : fields.find? key with
  | none => exact Or.inl (Or.inl rfl)
  | some value => exact plain value found

theorem exists_id_of_assignId {entityType : String} {given : Value} (reference : given.IsReference) :
    ∃ id : Id, (host.assignId entityType given).1 = id.value := by
  rcases reference with rfl | ⟨id, rfl⟩
  · exact ⟨.int (host.nextNumber entityType), rfl⟩
  · have something : id.value.isNothing = false := by cases id <;> rfl
    exact ⟨id, by simp [Host.assignId, something]⟩

theorem suits_create {entityType : String} {fields : Fields}
    (reference : ((fields.find? "id").getD .nothing).IsReference)
    (plain : ∀ row ∈ fields.rows, row.2.IsPlainKey) :
    pairing.Suits (.create entityType fields) := by
  refine ⟨reference, fun _ value found => ?_⟩
  have listed := (Table.find?_eq_some_iff _ _ _).1 found
  exact plain _ (List.mem_filter.1 listed).1

theorem IsKept.keeps (kept : pairing.IsKept before) (keeps : before.Keeps after) :
    pairing.IsKept after where
  declared := kept.declared.of_same ⟨keeps.relations, keeps.outage⟩
  keyed := ⟨by rw [keeps.records]; exact kept.keyed.keyed, by rw [keeps.outage, kept.keyed.real]⟩
  plain := by
    rw [keeps.records, keeps.destroyed]
    exact kept.plain

/-- Mutations with plain keys leave a host as it should be. -/
theorem IsKept.step (kept : pairing.IsKept host) {mutation : Mutation}
    (suits : pairing.Suits mutation) : pairing.IsKept (mutation.after host) := by
  cases committed : mutation.change? host with
  | none => exact kept.keeps (Mutation.keeps_of_uncommitted committed)
  | some change =>
      unfold Mutation.change? at committed
      unfold Mutation.after
      cases mutation with
      | create entityType fields =>
          cases created : host.create entityType fields with
          | mk outcome after =>
              simp only [Mutation.commit, created] at committed ⊢
              rcases Mutation.create_moves created with
                ⟨⟨failure, rfl⟩, -⟩ | ⟨given, key, rfl, isKey, assigned, stored, moves⟩
              · cases committed
              · obtain ⟨reference, plain⟩ := suits
                have given : ∃ id : Id, (host.assignId entityType _).1 = id.value :=
                  exists_id_of_assignId reference
                obtain ⟨id, isId⟩ := given
                rw [isId] at assigned
                subst assigned
                refine kept.of_moves moves fun record found => ?_
                rw [stored] at found
                cases found
                rw [Value.key_value] at isKey
                exact ⟨⟨id, rfl, (Except.ok.inj isKey).symm⟩, fun isSource =>
                  isPlainKey_getD (plain isSource)⟩
      | update entityType given changes =>
          simp only [Mutation.commit] at committed ⊢
          split at committed
          · rename_i fields after updated
            obtain ⟨key, former, -, present, stored, moves⟩ := Mutation.update_moves updated
            refine kept.of_moves moves fun record found => ?_
            rw [stored] at found
            cases found
            obtain ⟨id, isId, isKey, -⟩ := kept.keyed.keyed _ _ former present
            refine ⟨⟨id, isId, isKey⟩, fun isSource => isPlainKey_getD fun value held => ?_⟩
            rw [Table.find?_insertAll] at held
            rcases Option.or_eq_some_iff.1 held with changed | ⟨-, unchanged⟩
            · exact suits isSource value changed
            · have plain := kept.plain key former (Or.inl (isSource ▸ present))
              rwa [Host.held, unchanged] at plain
          · cases committed
      | destroy entityType given =>
          simp only [Mutation.commit] at committed ⊢
          split at committed
          · rename_i after destroyed
            obtain ⟨key, -, moves⟩ := Mutation.destroy_moves destroyed
            refine kept.of_moves moves fun record found => ?_
            obtain ⟨former, -, gone, -⟩ := moves.own
            rw [gone] at found
            cases found
          · cases committed

theorem IsKept.run (kept : pairing.IsKept host) {mutations : List Mutation}
    (suit : ∀ mutation ∈ mutations, pairing.Suits mutation) :
    pairing.IsKept (Mutation.afterAll host mutations) := by
  have keeps : Run.Keeps Mutation.after (fun _ mutation => pairing.Suits mutation) pairing.IsKept :=
    fun _ _ kept suits => kept.step suits
  exact keeps.afterAll kept (Run.along_of_forall suit)

/-! ## Destruction and creation again -/

theorem destroy_of_isLive {entityType : String} {owner : Id} {given : Value}
    (live : host.IsLive ⟨entityType, owner⟩) (isKey : given.key = .ok owner.key) :
    (Mutation.destroy entityType given).change? host = some ⟨.destroy, entityType, given⟩ := by
  obtain ⟨record, found⟩ := Option.isSome_iff_exists.1 live
  have listed : record ∈ host.ofType entityType := (Host.mem_ofType_iff record).2 ⟨_, found⟩
  have someListed : (host.ofType entityType).isEmpty = false := by
    simpa using List.ne_nil_of_mem listed
  have destroyed : ∃ after, host.destroy entityType given = .ok (true, after) := by
    simp [Host.destroy, someListed, isKey, found, bind, Except.bind, pure, Except.pure]
  obtain ⟨after, destroyed⟩ := destroyed
  simp [Mutation.change?, Mutation.commit, destroyed]

/-- Until it is created again, the key of what is destroyed is known as it was at last. -/
theorem lastFieldOf_after_destroy {entityType : String} {owner : Id} {given : Value}
    {rest : List Mutation} (live : host.IsLive ⟨entityType, owner⟩)
    (isKey : given.key = .ok owner.key)
    (uncreated : ∀ change ∈ Mutation.changes ((Mutation.destroy entityType given).after host) rest,
      change.concerns (entityType, owner.key) = true → change.kind ≠ .create) (field : String) :
    (Mutation.afterAll ((Mutation.destroy entityType given).after host) rest).lastFieldOf
      ⟨entityType, owner⟩ field = host.fieldOf ⟨entityType, owner⟩ field := by
  obtain ⟨key, sameKey, moves⟩ := Mutation.moves_of_committed (destroy_of_isLive live isKey)
  obtain rfl : owner.key = key := Except.ok.inj (isKey.symm.trans sameKey)
  obtain ⟨-, -, gone, -⟩ := moves.own
  have unconcerned := Mutation.unconcerned_of_uncreated
    (by simp only [Host.has, gone, Option.isSome_none]) uncreated
  have knownAtLast := Mutation.lastKnown_afterAll fun change member concerns =>
    absurd concerns (unconcerned change member)
  have knownAtOnce : ((Mutation.destroy entityType given).after host).lastKnown entityType
      owner.key = host.lastKnown entityType owner.key :=
    Mutation.lastKnown_of_moves moves fun _ => rfl
  rw [Host.lastFieldOf, knownAtLast, knownAtOnce, ← Host.lastFieldOf_of_isLive live]
  rfl

/-- From its creation on, the key of a record is known as it was given, until it is updated or created
again. -/
theorem lastFieldOf_after_create {entityType : String} {owner : Id} {fields : Fields}
    {rest : List Mutation}
    (committed : (Mutation.create entityType fields).change? host =
      some ⟨.create, entityType, owner.value⟩)
    (unwritten : ∀ change ∈ Mutation.changes ((Mutation.create entityType fields).after host) rest,
      change.concerns (entityType, owner.key) = true → change.kind = .destroy) (field : String) :
    (Mutation.afterAll ((Mutation.create entityType fields).after host) rest).lastFieldOf
      ⟨entityType, owner⟩ field = ((fields.erase "id").find? field).getD .nothing := by
  have stored := Mutation.stored_of_created committed
  rw [Host.lastFieldOf, Mutation.lastKnown_afterAll unwritten, Host.lastKnown, stored]
  rfl

/-- Two opposite relations mirror each other, whatever mutations were made. A destroyed record
reaches what it reached at last, until it is created again; then only its new key counts. -/
theorem mirrors_along_mutations (kept : pairing.IsKept host) :
    (∀ mutations : List Mutation, (∀ mutation ∈ mutations, pairing.Suits mutation) →
      pairing.Mirrors (Mutation.afterAll host mutations)) ∧
    (∀ (owner : Id) (given : Value) (rest : List Mutation),
      host.IsLive ⟨pairing.source, owner⟩ → given.key = .ok owner.key →
      let destroyed := (Mutation.destroy pairing.source given).after host
      (∀ change ∈ Mutation.changes destroyed rest,
        change.concerns (pairing.source, owner.key) = true → change.kind ≠ .create) →
      pairing.Reaches (Mutation.afterAll destroyed rest) owner
        (host.fieldOf ⟨pairing.source, owner⟩ pairing.key)) ∧
    ∀ (owner : Id) (fields : Fields) (rest : List Mutation),
      pairing.Suits (.create pairing.source fields) →
      (∀ mutation ∈ rest, pairing.Suits mutation) →
      (Mutation.create pairing.source fields).change? host =
        some ⟨.create, pairing.source, owner.value⟩ →
      let created := (Mutation.create pairing.source fields).after host
      (∀ change ∈ Mutation.changes created rest,
        change.concerns (pairing.source, owner.key) = true → change.kind = .destroy) →
      let later := Mutation.afterAll created rest
      let value := ((fields.erase "id").find? pairing.key).getD .nothing
      pairing.Reaches later owner value ∧
        ∀ id, ∃ refs, later.resolve pairing.target id.value pairing.back = .ok refs ∧
          (⟨pairing.source, owner⟩ ∈ refs ↔
            later.IsLive ⟨pairing.source, owner⟩ ∧ value.Names id) := by
  refine ⟨?_, ?_, ?_⟩
  · intro mutations suit
    exact (kept.run suit).mirrors
  · intro owner given rest live isKey destroyed uncreated
    have declared := (kept.declared.of_same
      (Mutation.declares_after (.destroy pairing.source given) host)).of_same
        (Mutation.declares_afterAll rest _)
    exact declared.reaches (lastFieldOf_after_destroy live isKey uncreated pairing.key)
      (kept.isPlainKey_fieldOf live)
  · intro owner fields rest suits suit committed created unwritten later value
    have keptLater : pairing.IsKept later := (kept.step suits).run suit
    have holds := lastFieldOf_after_create committed unwritten pairing.key
    exact ⟨keptLater.declared.reaches holds (isPlainKey_getD (suits.2 rfl)),
      keptLater.gathers_iff holds⟩

def authorship : Pairing := ⟨"post", "author", "user", "posts", "author_id"⟩

def press : Host :=
  (Host.empty.relate "post" "author" ⟨"user", "author_id", .belongsTo⟩).relate
    "user" "posts" ⟨"post", "author_id", .hasMany⟩

/-- Two users, a post whose key is a truth value, and one whose key dangles. -/
def printing : List Mutation :=
  [.create "user" (.ofList [("id", .int 1)]), .create "user" (.ofList [("id", .str "b")]),
    .create "post" (.ofList [("id", .int 3), ("author_id", .bool true)]),
    .create "post" (.ofList [("id", .str "draft"), ("author_id", .int 9)])]

def reprint : Mutation := .create "post" (.ofList [("id", .int 3), ("author_id", .str "b")])

theorem press_kept : authorship.IsKept press where
  declared := ⟨rfl, rfl, by decide, by decide, List.not_mem_nil, List.not_mem_nil⟩
  keyed := Host.isKeyed_of_unrecorded rfl rfl
  plain := by
    rintro key record (impossible | impossible) <;> cases impossible

theorem printing_suits : ∀ mutation ∈ printing, authorship.Suits mutation := by
  have reference (id : Id) : id.value.IsReference := Or.inr ⟨id, rfl⟩
  have plain (id : Id) : id.value.IsPlainKey := Or.inl (reference id)
  simp only [printing, List.mem_cons, List.not_mem_nil, or_false, forall_eq_or_imp, forall_eq]
  refine ⟨suits_create (reference (.int 1)) ?_, suits_create (reference (.str "b")) ?_,
    suits_create (reference (.int 3)) ?_, suits_create (reference (.str "draft")) ?_⟩
  · rintro row (_ | ⟨_, _ | _⟩)
    exact plain (.int 1)
  · rintro row (_ | ⟨_, _ | _⟩)
    exact plain (.str "b")
  · rintro row (_ | ⟨_, _ | ⟨_, _ | _⟩⟩)
    · exact plain (.int 3)
    · exact Or.inr ⟨true, rfl⟩
  · rintro row (_ | ⟨_, _ | ⟨_, _ | _⟩⟩)
    · exact plain (.str "draft")
    · exact plain (.int 9)

theorem mirrors_along_mutations_press :
    let printed := Mutation.afterAll press printing
    let removed := (Mutation.destroy "post" (.int 3)).after printed
    authorship.Mirrors printed ∧
      authorship.Reaches (Mutation.afterAll removed
        [.destroy "user" (.int 1), .create "user" (.ofList [("id", .int 1)])]) (.int 3) (.bool true) ∧
      authorship.Reaches (Mutation.afterAll (reprint.after removed) [.destroy "post" (.int 3)])
        (.int 3) (.str "b") := by
  intro printed removed
  have kept : authorship.IsKept printed := press_kept.run printing_suits
  have present : printed.has ("post", .int 3) = true := by decide +kernel
  refine ⟨(mirrors_along_mutations press_kept).1 _ printing_suits, ?_, ?_⟩
  · exact (mirrors_along_mutations kept).2.1 (.int 3) (.int 3) _ present rfl
      (by decide +kernel)
  · have suits : authorship.Suits reprint := by
      refine suits_create (Or.inr ⟨.int 3, rfl⟩) ?_
      rintro row (_ | ⟨_, _ | ⟨_, _ | _⟩⟩)
      · exact Or.inl (Or.inr ⟨.int 3, rfl⟩)
      · exact Or.inl (Or.inr ⟨.str "b", rfl⟩)
    have keptRemoved : authorship.IsKept removed := kept.step trivial
    exact ((mirrors_along_mutations keptRemoved).2.2 (.int 3) _ _ suits (by simp [Suits]) rfl
      (by decide +kernel)).1

end Pairing

end ShadowIndex
