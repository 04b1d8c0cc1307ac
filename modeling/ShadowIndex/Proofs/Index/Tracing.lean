import ShadowIndex.Proofs.Host.Changes
import ShadowIndex.Proofs.Index.Live

/-!
Contract: types whose texts can be traced to the records that they are read from.

Owns:
- `Host.Mirrors`, relations with a declared opposite and a declared dependency;
- `Catalog.Traces`: every field of a type reads the record itself, or its associates along a
  mirrored relation;
- the entry of a traced type is built from the record and these associates alone
  (`Catalog.liveEntry_congr`), and always in the same way (`Catalog.isSteady_of_traces`).

Does not own: who is told when associates change.
-/

set_option autoImplicit false

namespace ShadowIndex

def RelationKind.opposite : RelationKind → RelationKind
  | .belongsTo => .hasMany
  | .hasMany => .belongsTo

/-- A relation whose opposite over the same foreign key is declared, and with it the dependency of
the type on what the relation reaches. -/
def Host.Mirrors (host : Host) (dependencies : DependencyGraph) (entityType name : String) : Prop :=
  ∃ relation opposite, host.relations.find? (entityType, name) = some relation ∧
    host.relations.find? (relation.target, opposite) =
      some ⟨entityType, relation.foreignKey, relation.kind.opposite⟩ ∧
    ⟨entityType, relation.target, opposite⟩ ∈ dependencies.edges

def Snapshot.IsSteady (snapshot : Snapshot) : Prop :=
  ∀ name value, snapshot.fields.find? name = some value → value.IsSteady

/-- A function of the record itself, or of its associates along a mirrored relation. -/
def Extractor.IsTraced (dependencies : DependencyGraph) (host : Host) (entityType : String) :
    Extractor → Prop
  | .own read => ∀ snapshot, snapshot.IsSteady → ∀ value, read snapshot = .ok value → value.IsSteady
  | .association relation _ => host.Mirrors dependencies entityType relation
  | _ => False

/-- A field with a traced extractor, or an alias in the type itself. -/
def Field.IsTraced (dependencies : DependencyGraph) (host : Host) (entityType : String)
    (field : Field) : Prop :=
  match field.source with
  | .extractor rule => rule.IsTraced dependencies host entityType
  | .alias home _ => home = entityType

/-- The extractor that an alias runs is that of a field of the type. -/
theorem Definition.exists_field_of_rule {definition : Definition} {target : String}
    {rule : Extractor} (behind : (definition.fields.find? target).bind Field.rule? = some rule) :
    ∃ field, (target, field) ∈ definition.fields.rows ∧ field.source = .extractor rule := by
  obtain ⟨field, found, isRule⟩ := Option.bind_eq_some_iff.1 behind
  refine ⟨field, (Table.find?_eq_some_iff _ _ _).1 found, ?_⟩
  unfold Field.rule? at isRule
  split at isRule
  · rename_i inner isInner
    cases isRule
    exact isInner
  · cases isRule

namespace Catalog

/-- A type all of whose fields are traced. -/
def Traces (catalog : Catalog) (host : Host) (entityType : String) : Prop :=
  ∀ row ∈ (catalog.registry.get entityType).fields.rows,
    row.2.IsTraced catalog.dependencies host entityType

/-- A relation along which some field of a type reads associates. -/
def Reads (catalog : Catalog) (entityType name : String) : Prop :=
  ∃ row ∈ (catalog.registry.get entityType).fields.rows,
    ∃ names, row.2.source = .extractor (.association name names)

theorem isRegistered_of_reads {catalog : Catalog} {entityType name : String}
    (reads : catalog.Reads entityType name) : catalog.registry.isRegistered entityType = true := by
  obtain ⟨row, member, -⟩ := reads
  have filled : (catalog.registry.get entityType).fields.rows ≠ [] := List.ne_nil_of_mem member
  simpa [Registry.isRegistered, Definition.isEmpty, Table.isEmpty] using filled

theorem mirrors_of_reads {catalog : Catalog} {host : Host} {entityType name : String}
    (traces : catalog.Traces host entityType) (reads : catalog.Reads entityType name) :
    host.Mirrors catalog.dependencies entityType name := by
  obtain ⟨row, member, names, isAssociation⟩ := reads
  have traced := traces row member
  unfold Field.IsTraced at traced
  rw [isAssociation] at traced
  exact traced

/-- A type stays traced where its fields, the dependencies and the relations are the same. -/
theorem Traces.congr {former later : Catalog} {before after : Host} {entityType : String}
    (traces : former.Traces before entityType)
    (sameFields : later.registry.get entityType = former.registry.get entityType)
    (sameEdges : later.dependencies = former.dependencies)
    (sameRelations : after.relations = before.relations) : later.Traces after entityType := by
  have sameMirrors : after.Mirrors = before.Mirrors := by
    funext dependencies type name
    simp only [Host.Mirrors, sameRelations]
  have sameRules (rule : Extractor) :
      rule.IsTraced former.dependencies after entityType =
        rule.IsTraced former.dependencies before entityType := by
    cases rule <;> simp only [Extractor.IsTraced, sameMirrors]
  intro row member
  rw [sameFields] at member
  have traced := traces row member
  rw [sameEdges]
  unfold Field.IsTraced at traced ⊢
  cases source : row.2.source with
  | extractor rule =>
      rw [source] at traced
      simpa only [sameRules] using traced
  | «alias» home target =>
      rw [source] at traced
      exact traced

end Catalog

/-! ## Texts from the same records -/

namespace Catalog

variable {former later catalog : Catalog} {before after host : Host} {entityType : String} {id : Id}

/-- A field of a traced type gives what one traced extractor gives, in every registry that has the
same fields for the type. An alias of an attribute is an extractor of the record itself. -/
theorem exists_rule (traces : catalog.Traces host entityType) {row : String × Field}
    (member : row ∈ (catalog.registry.get entityType).fields.rows) :
    ∃ rule : Extractor, rule.IsTraced catalog.dependencies host entityType ∧
      (∀ name names, rule = .association name names → catalog.Reads entityType name) ∧
      ∀ registry : Registry, registry.get entityType = catalog.registry.get entityType →
        ∀ (view : RecordView Snapshot) record,
          registry.extractValue view record row.2 = rule.run view record := by
  have traced := traces row member
  unfold Field.IsTraced at traced
  cases source : row.2.source with
  | extractor rule =>
      rw [source] at traced
      refine ⟨rule, traced, ?_, ?_⟩
      · intro name names isAssociation
        exact ⟨row, member, names, by rw [source, isAssociation]⟩
      · intro registry _ view record
        simp only [Registry.extractValue, source]
  | «alias» home target =>
      rw [source] at traced
      have isHome : home = entityType := traced
      subst isHome
      cases behind : ((catalog.registry.get home).fields.find? target).bind Field.rule? with
      | none =>
          refine ⟨.own fun snapshot => .ok (snapshot.get target .nothing), ?_, by simp, ?_⟩
          · intro snapshot steady value given
            cases given
            unfold Snapshot.get
            cases found : snapshot.fields.find? target with
            | none => exact Value.isSteady_of_solid rfl
            | some value => exact steady target value found
          · intro registry same view record
            simp only [Registry.extractValue, source, same, behind]
            rfl
      | some rule =>
          obtain ⟨field, isField, isSource⟩ := Definition.exists_field_of_rule behind
          have targetTraced := traces (target, field) isField
          unfold Field.IsTraced at targetTraced
          rw [isSource] at targetTraced
          refine ⟨rule, targetTraced, ?_, ?_⟩
          · intro name names isAssociation
            exact ⟨(target, field), isField, names, by rw [isSource, isAssociation]⟩
          · intro registry same view record
            simp only [Registry.extractValue, source, same, behind]

/-- The entry of a record depends on the record and on the value that each field gives for it. -/
theorem liveEntry_of_values
    (sameFields : later.registry.get entityType = former.registry.get entityType)
    (sameSnapshot : after.snapshot entityType id.value = before.snapshot entityType id.value)
    (sameValues : ∀ snapshot, before.snapshot entityType id.value = .ok (some snapshot) →
      ∀ row ∈ (former.registry.get entityType).fields.rows,
        later.registry.extractValue after.view snapshot row.2 =
          former.registry.extractValue before.view snapshot row.2) :
    later.liveEntry after entityType id.value = former.liveEntry before entityType id.value := by
  funext streams
  rw [liveEntry_source, liveEntry_source, sameSnapshot]
  cases found : before.snapshot entityType id.value with
  | error cause => rfl
  | ok snapshot? =>
      cases snapshot? with
      | none => rfl
      | some snapshot =>
          have sameRows : ∀ row ∈ (former.registry.get entityType).fields.rows,
              later.registry.extractNamed after.view snapshot row =
                former.registry.extractNamed before.view snapshot row := by
            intro row member
            simp only [Registry.extractNamed, Registry.extract_of_view,
              sameValues snapshot found row member]
          have sameBuild : later.registry.build after.view entityType snapshot =
              former.registry.build before.view entityType snapshot := by
            simp only [Registry.build, sameFields, Action.each_congr sameRows]
          simp only [sameBuild]

/-- The entry of a record of a traced type depends on the fields of the type, on the record, and on
the associates that the fields read. -/
theorem liveEntry_congr (traces : former.Traces host entityType)
    (sameFields : later.registry.get entityType = former.registry.get entityType)
    (sameSnapshot : after.snapshot entityType id.value = before.snapshot entityType id.value)
    (sameAssociates : ∀ snapshot, before.snapshot entityType id.value = .ok (some snapshot) →
      ∀ name, former.Reads entityType name →
        after.associated snapshot name = before.associated snapshot name) :
    later.liveEntry after entityType id.value = former.liveEntry before entityType id.value := by
  apply liveEntry_of_values sameFields sameSnapshot
  intro snapshot found row member
  obtain ⟨rule, traced, reads, extracts⟩ := exists_rule traces member
  rw [extracts _ sameFields, extracts _ rfl]
  cases rule with
  | own read => rfl
  | association name names =>
      have same := sameAssociates snapshot found name (reads name names rfl)
      simp only [Extractor.run, Host.view_associated, same, Host.view_snapshot]
  | reading read => exact traced.elim

end Catalog

/-! ## Steady texts -/

namespace Host.IsOrderly

variable {host : Host} {ids : Id → Prop} {entityType : String} {id : Id}

theorem isSteady_of_snapshot (orderly : host.IsOrderly ids) {snapshot : Snapshot}
    (found : host.snapshot entityType id.value = .ok (some snapshot)) : snapshot.IsSteady := by
  rw [orderly.snapshot_eq] at found
  cases present : host.records.find? (entityType, id.key) with
  | none => simp [present] at found
  | some record =>
      simp only [present] at found
      cases checked : checkedRef entityType id.value with
      | error failure => simp [checked, Except.map] at found
      | ok ref =>
          simp only [checked, Except.map, Except.ok.injEq, Option.some.injEq] at found
          subst found
          exact fun name value => orderly.steady _ record present name value

theorem isSteady_of_associated (orderly : host.IsOrderly ids) {snapshot : Snapshot} {name : String}
    {others : List Snapshot} (found : host.associated snapshot name = .ok others) {other : Snapshot}
    (member : other ∈ others) : other.IsSteady := by
  rw [Host.associated_eq_resolve] at found
  cases resolved : host.resolve snapshot.ref.entityType snapshot.ref.id.value name with
  | error failure => simp [resolved, bind, Except.bind] at found
  | ok refs =>
      cases looked : refs.mapM fun ref => host.snapshot ref.entityType ref.id.value with
      | error failure => simp [resolved, looked, bind, Except.bind] at found
      | ok snapshots =>
          simp only [resolved, looked, bind, Except.bind, pure, Except.pure,
            Except.ok.injEq] at found
          subst found
          obtain ⟨other?, isListed, isOther⟩ := List.mem_filterMap.1 member
          have isSome : other? = some other := isOther
          subst isSome
          obtain ⟨ref, -, given⟩ := mem_of_mapM_eq_ok looked isListed
          exact orderly.isSteady_of_snapshot given

end Host.IsOrderly

/-- Texts of traced types in a host in order are steady. -/
theorem Catalog.isSteady_of_traces {catalog : Catalog} {host : Host} {ids : Id → Prop}
    {entityType : String} (traces : catalog.Traces host entityType)
    (orderly : host.IsOrderly ids) : catalog.IsSteady host entityType := by
  intro id snapshot found row member value given
  obtain ⟨rule, traced, -, extracts⟩ := exists_rule traces member
  rw [extracts _ rfl] at given
  cases rule with
  | own read => exact traced snapshot (orderly.isSteady_of_snapshot found) value given
  | association name names =>
      simp only [Extractor.run, Host.view_associated, Host.view_snapshot, bind, Except.bind, pure,
        Except.pure] at given
      cases reached : host.associated snapshot name with
      | error failure => simp [reached] at given
      | ok others =>
          simp only [reached, Except.ok.injEq] at given
          subst given
          apply Value.isSteady_list
          intro item isItem
          obtain ⟨other, isOther, rfl⟩ := List.mem_map.1 isItem
          exact Extractor.isSteady_readAttributes (orderly.isSteady_of_associated reached isOther) names
  | reading read => exact traced.elim

end ShadowIndex
