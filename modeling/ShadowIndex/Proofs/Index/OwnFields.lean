import ShadowIndex.Proofs.Index.Departure
import ShadowIndex.Proofs.Index.Mending
import ShadowIndex.Proofs.Schema.Declared

/-!
Contract: types whose texts are read from the record itself.

Owns:
- `Catalog.ReadsOwn`: every field of a type reads the record itself, and no other;
- the entry of such a type depends on the record alone (`Catalog.liveEntry_of_snapshot`), so what
  can be built while some look-ups fail can be built while none does (`Catalog.Sound.calm`).

Does not own: who is told of a change.
-/

set_option autoImplicit false

namespace ShadowIndex

/-- A function of the record itself. -/
def Extractor.IsOwn : Extractor → Prop
  | .own _ => True
  | _ => False

/-- A field with an extractor of the record itself, or an alias in the type itself. -/
def Field.IsOwn (entityType : String) (field : Field) : Prop :=
  match field.source with
  | .extractor rule => rule.IsOwn
  | .alias home _ => home = entityType

/-- A host when no look-up fails. -/
def Host.calm (host : Host) : Host := { host with outage := .none }

namespace Catalog

/-- A type all of whose fields read the record itself. -/
def ReadsOwn (catalog : Catalog) (entityType : String) : Prop :=
  ∀ row ∈ (catalog.registry.get entityType).fields.rows, row.2.IsOwn entityType

variable {former later catalog : Catalog} {source : Source} {before after host : Host}
variable {entityType : String} {id : Id} {owner : Ref}

theorem ReadsOwn.congr (own : former.ReadsOwn entityType)
    (sameFields : later.registry.get entityType = former.registry.get entityType) :
    later.ReadsOwn entityType := by
  intro row member
  rw [sameFields] at member
  exact own row member

/-- A field that reads the record itself gives the same value wherever records look the same. -/
theorem extractValue_of_own {m : Type → Type} [Monad m] [MonadLiftT (Except Failure) m]
    [MonadExceptOf Failure m] (left right : RecordReader m Snapshot)
    (sameRecords : ∀ record, right.snapshot record = left.snapshot record)
    (own : former.ReadsOwn entityType)
    (sameFields : later.registry.get entityType = former.registry.get entityType)
    {row : String × Field} (member : row ∈ (former.registry.get entityType).fields.rows)
    (snapshot : Snapshot) :
    later.registry.extractValue right snapshot row.2 =
      former.registry.extractValue left snapshot row.2 := by
  have sameValue {rule : Extractor} (isOwn : rule.IsOwn) :
      rule.run right snapshot = rule.run left snapshot := by
    cases rule with
    | own read => simp only [Extractor.run, sameRecords]
    | association name names => exact isOwn.elim
    | reading read => exact isOwn.elim
  have isOwn := own row member
  unfold Field.IsOwn at isOwn
  cases source : row.2.source with
  | extractor rule =>
      rw [source] at isOwn
      simp only [Registry.extractValue, source, sameValue isOwn]
  | «alias» home target =>
      rw [source] at isOwn
      have isHome : home = entityType := isOwn
      subst isHome
      simp only [Registry.extractValue, source, sameFields]
      cases behind : ((former.registry.get home).fields.find? target).bind Field.rule? with
      | none => simp only [sameRecords]
      | some rule =>
          obtain ⟨field, isField, isSource⟩ := Definition.exists_field_of_rule behind
          have targetOwn := own (target, field) isField
          unfold Field.IsOwn at targetOwn
          rw [isSource] at targetOwn
          exact sameValue targetOwn

/-- The entry of a record depends on the fields of the type and on the record, and on nothing
else. -/
theorem liveEntry_of_snapshot (own : former.ReadsOwn entityType)
    (sameFields : later.registry.get entityType = former.registry.get entityType)
    (sameSnapshot : after.snapshot entityType id.value = before.snapshot entityType id.value) :
    later.liveEntry after entityType id.value = former.liveEntry before entityType id.value :=
  liveEntry_of_values sameFields sameSnapshot fun snapshot _ _ member =>
    extractValue_of_own before.view after.view (fun _ => rfl) own sameFields member snapshot

/-! ## Failing look-ups -/

/-- A look-up that does not fail gives what it gives when none fails. -/
theorem snapshot_calm {snapshot? : Option Snapshot}
    (looked : host.snapshot entityType id.value = .ok snapshot?) :
    host.calm.snapshot entityType id.value = host.snapshot entityType id.value := by
  have unblocked : host.outage.blocks entityType id.value = false := by
    by_contra blocked
    have fails : host.fetch entityType id.value = .error .hostUnavailable := by
      simp [Host.fetch, blocked, throw, throwThe, MonadExceptOf.throw, bind, Except.bind]
    simp [Host.snapshot_eq_fetch, fails, bind, Except.bind] at looked
  have unblockedCalm : host.calm.outage.blocks entityType id.value = false := rfl
  simp only [Host.snapshot_eq_fetch, Host.fetch, unblocked, unblockedCalm]
  rfl

theorem liveEntry_calm (own : catalog.ReadsOwn entityType) {snapshot? : Option Snapshot}
    (looked : host.snapshot entityType id.value = .ok snapshot?) :
    catalog.liveEntry host.calm entityType id.value = catalog.liveEntry host entityType id.value :=
  liveEntry_of_snapshot own rfl (snapshot_calm looked)

/-- A build that succeeds has seen whether there is a record. -/
theorem snapshot_of_liveEntry {streams : Streams} {built? : Option Entry}
    (built : (catalog.liveEntry host entityType id.value streams).1 = .ok built?) :
    ∃ snapshot?, host.snapshot entityType id.value = .ok snapshot? := by
  cases looked : host.snapshot entityType id.value with
  | error failure =>
      rw [liveEntry_source, looked] at built
      cases built
  | ok snapshot? => exact ⟨snapshot?, rfl⟩

/-- An entry that can be built while look-ups fail can be built while none does. -/
theorem Builds.of_reflects (own : catalog.ReadsOwn owner.entityType)
    (reflects : source.Reflects host) {entry : Entry}
    (builds : catalog.Builds source owner entry) : catalog.Builds host owner entry := by
  obtain ⟨streams, built⟩ := builds
  rcases liveEntry_inv (Prod.ext built rfl) with ⟨cause, -, fails⟩ | ⟨-, gone⟩ |
    ⟨snapshot, between, found, ⟨cause, -, fails⟩ | ⟨texts, extracted, gives⟩⟩
  · cases fails
  · cases gone
  · cases fails
  · cases gives
    have sameRows : ∀ row ∈ (catalog.registry.get owner.entityType).fields.rows,
        catalog.registry.extractNamed source.view snapshot row =
          catalog.registry.extractNamed (host.view.steady Streams) snapshot row := by
      intro row member
      have sameValue := extractValue_of_own (host.view.steady Streams) source.view (fun _ => rfl)
        own rfl member snapshot
      simp only [Registry.extractNamed, Registry.extract, sameValue]
    have sameBuild : catalog.registry.build source.view owner.entityType snapshot =
        catalog.registry.build host.view owner.entityType snapshot := by
      rw [← Registry.build_steady, Registry.build, Action.each_congr sameRows, Registry.build]
    refine ⟨between, ?_⟩
    rw [sameBuild] at extracted
    simp only [liveEntry_source, reflects.snapshot found, extracted]

theorem Builds.calm (own : catalog.ReadsOwn owner.entityType) {entry : Entry}
    (builds : catalog.Builds host owner entry) : catalog.Builds host.calm owner entry := by
  obtain ⟨streams, built⟩ := builds
  obtain ⟨snapshot?, looked⟩ := snapshot_of_liveEntry built
  exact ⟨streams, by rw [liveEntry_calm own looked]; exact built⟩

/-- Where a record can be fetched, an entry that it has when nothing fails can be built. -/
theorem Builds.of_calm (own : catalog.ReadsOwn owner.entityType) {entry : Entry}
    {snapshot? : Option Snapshot}
    (looked : host.snapshot owner.entityType owner.id.value = .ok snapshot?)
    (builds : catalog.Builds host.calm owner entry) : catalog.Builds host owner entry := by
  obtain ⟨streams, built⟩ := builds
  exact ⟨streams, by rw [← liveEntry_calm own looked]; exact built⟩

theorem Sound.calm (own : catalog.ReadsOwn owner.entityType) (reflects : source.Reflects host)
    {held : Option Entry} (sound : catalog.Sound source owner held) :
    catalog.Sound host.calm owner held :=
  fun entry isHeld fresh => ((sound entry isHeld fresh).of_reflects own reflects).calm own

end Catalog

/-! ## Entries that stay -/

namespace Index

variable {former later catalog : Catalog} {host : Host} {owner : Ref}

/-- An entry stays sound where its record is as it was. -/
theorem sound_of_snapshot {before after : Host} (own : former.ReadsOwn owner.entityType)
    (sameFields : later.registry.get owner.entityType = former.registry.get owner.entityType)
    (sameSnapshot : after.snapshot owner.entityType owner.id.value =
      before.snapshot owner.entityType owner.id.value) {held : Option Entry}
    (sound : former.Sound before owner held) : later.Sound after owner held :=
  sound_of_liveEntry_eq (fun _ _ => Catalog.liveEntry_of_snapshot own sameFields sameSnapshot) sound

/-- What is true once nothing fails stays so through work that some look-ups fail. -/
theorem Mends.sound_calm {source : Source} {before after : Store}
    (mends : Mends catalog source before after) (reflects : source.Reflects host)
    (own : catalog.ReadsOwn owner.entityType)
    (sound : catalog.Sound host.calm owner (before.find? owner)) :
    catalog.Sound host.calm owner (after.find? owner) := by
  rcases mends.found owner with same | ⟨-, touched⟩
  · rw [same]
    exact sound
  · exact touched.calm own reflects

end Index

end ShadowIndex
