import ShadowIndex.Proofs.Host.Reflection
import ShadowIndex.Proofs.Host.Relations
import ShadowIndex.Proofs.Index.Steadiness

/-!
Contract: the entry that a record has when it is built now.

Owns:
- `Catalog.Builds`, an entry that a build of a record can give;
- `Catalog.live`, the outcome of a build, for types whose fields are steady, with `Catalog.Gives` and
  `Catalog.Raises`, what it comes to;
- the owner and the flags of what is built, and the failures of a build.

Does not own: where a built entry goes.
-/

set_option autoImplicit false

namespace ShadowIndex

/-! ## Built entries -/

namespace Catalog

variable {catalog : Catalog} {source : Source} {host : Host} {entityType : String} {id : Id}

/-- What a build comes to: the record cannot be fetched, it is not there, or it is there, and its
texts can be built or not. -/
theorem liveEntry_inv {id : Value} {streams after : Streams}
    {outcome : Except Failure (Option Entry)}
    (built : catalog.liveEntry source entityType id streams = (outcome, after)) :
    (∃ cause, source.snapshot entityType id streams = (.error cause, after) ∧
        outcome = .error (rebuildFailure entityType id .fetch cause)) ∨
      (source.snapshot entityType id streams = (.ok none, after) ∧ outcome = .ok none) ∨
      ∃ snapshot between, source.snapshot entityType id streams = (.ok (some snapshot), between) ∧
        ((∃ cause, catalog.registry.build source.view entityType snapshot between =
              (.error cause, after) ∧
            outcome = .error (rebuildFailure entityType id .extraction cause)) ∨
          ∃ texts, catalog.registry.build source.view entityType snapshot between =
              (.ok texts, after) ∧
            outcome = .ok (some ⟨snapshot.ref, .ofTexts texts⟩)) := by
  unfold liveEntry at built
  rw [Action.bind_apply, Action.attempt] at built
  cases looked : source.snapshot entityType id streams with
  | mk found between =>
      rw [looked] at built
      rcases found with cause | none | snapshot
      · cases built
        exact Or.inl ⟨cause, rfl, rfl⟩
      · cases built
        exact Or.inr (Or.inl ⟨rfl, rfl⟩)
      · refine Or.inr (Or.inr ⟨snapshot, between, rfl, ?_⟩)
        simp only [Action.bind_apply, Action.attempt] at built
        cases extracted : catalog.registry.build source.view entityType snapshot between with
        | mk texts? last =>
            rw [extracted] at built
            cases texts? with
            | error cause =>
                cases built
                exact Or.inl ⟨cause, rfl, rfl⟩
            | ok texts =>
                cases built
                exact Or.inr ⟨texts, rfl, rfl⟩

/-- A build of a record can give an entry. -/
def Builds (catalog : Catalog) (source : Source) (owner : Ref) (entry : Entry) : Prop :=
  ∃ streams, (catalog.liveEntry source owner.entityType owner.id.value streams).1 = .ok (some entry)

/-- What is built belongs to its record, and is up to date. -/
theorem Builds.eq_ofTexts {owner : Ref} {entry : Entry}
    (builds : catalog.Builds source owner entry) : ∃ texts, entry = ⟨owner, .ofTexts texts⟩ := by
  obtain ⟨streams, built⟩ := builds
  rcases liveEntry_inv (Prod.ext built rfl) with ⟨cause, -, fails⟩ | ⟨-, gone⟩ |
    ⟨snapshot, between, found, ⟨cause, -, fails⟩ | ⟨texts, -, gives⟩⟩
  · cases fails
  · cases gone
  · cases fails
  · cases gives
    exact ⟨texts, by rw [Host.checkedRef_value_inv (LookUps.checkedRef_of_snapshot found)]⟩

theorem Builds.owner_eq {owner : Ref} {entry : Entry}
    (builds : catalog.Builds source owner entry) : entry.owner = owner := by
  obtain ⟨texts, rfl⟩ := builds.eq_ofTexts
  rfl

theorem Builds.fresh {owner : Ref} {entry : Entry} (builds : catalog.Builds source owner entry) :
    entry.content.stale = false := by
  obtain ⟨texts, rfl⟩ := builds.eq_ofTexts
  rfl

theorem isEnding_of_rebuildFailure {id : Value} {stage : RebuildStage} {cause : Failure}
    (unhandled : Index.isRebuildFailure (rebuildFailure entityType id stage cause) = false) :
    (rebuildFailure entityType id stage cause).isEnding = true := by
  unfold rebuildFailure at unhandled ⊢
  split
  · assumption
  · rename_i goesOn
    rw [if_neg goesOn] at unhandled
    cases unhandled

/-- What keeps an entry from being built ends the program, or is reported as a failed rebuild. -/
theorem isEnding_of_liveEntry {streams : Streams} {failure : Failure}
    (failed : (catalog.liveEntry source entityType id.value streams).1 = .error failure)
    (unhandled : Index.isRebuildFailure failure = false) : failure.isEnding = true := by
  rcases liveEntry_inv (Prod.ext failed rfl) with ⟨cause, -, fails⟩ | ⟨-, gone⟩ |
    ⟨snapshot, between, -, ⟨cause, -, fails⟩ | ⟨texts, -, gives⟩⟩
  · cases fails
    exact isEnding_of_rebuildFailure unhandled
  · cases gone
  · cases fails
    exact isEnding_of_rebuildFailure unhandled
  · cases gives

/-! ## Steady types -/

/-- Whether every field of every record of a type gives a steady value, unless it fails. -/
def IsSteady (catalog : Catalog) (host : Host) (entityType : String) : Prop :=
  ∀ (id : Id) snapshot, host.snapshot entityType id.value = .ok (some snapshot) →
    catalog.registry.IsSteadyFor host.view entityType snapshot

/-- A type whose fields have to be texts is steady. -/
theorem isSteady_of_texts (texts : ∀ row ∈ (catalog.registry.get entityType).fields.rows,
    ∃ name, row.2.source = .extractor (.requiredText name)) : catalog.IsSteady host entityType := by
  intro id snapshot _ row member value given
  obtain ⟨name, isText⟩ := texts row member
  simp only [Registry.extractValue, isText, Extractor.requiredText, Extractor.run] at given
  split at given
  · cases given
    exact Value.isSteady_of_solid rfl
  · cases given

/-- The outcome of a build now, where nothing was read before. -/
def live (catalog : Catalog) (host : Host) (owner : Ref) : Except Failure (Option Entry) :=
  (catalog.liveEntry host owner.entityType owner.id.value .none).1

/-- A steady type is built with one outcome, whatever was read before. -/
theorem liveEntry_eq_live (steady : catalog.IsSteady host entityType) (id : Id)
    (streams : Streams) :
    (catalog.liveEntry host entityType id.value streams).1 = catalog.live host ⟨entityType, id⟩ := by
  simp only [live, liveEntry_source]
  cases found : host.snapshot entityType id.value with
  | error failure => rfl
  | ok snapshot? =>
      cases snapshot? with
      | none => rfl
      | some snapshot =>
          have same := Registry.isIndifferent_build (steady id snapshot found) streams .none
          simp only
          cases now : catalog.registry.build host.view entityType snapshot streams with
          | mk outcome after =>
              cases first : catalog.registry.build host.view entityType snapshot .none with
              | mk firstOutcome firstAfter =>
                  rw [now, first] at same
                  cases same
                  cases outcome <;> rfl

theorem builds_iff (steady : catalog.IsSteady host entityType) (id : Id) (entry : Entry) :
    catalog.Builds host ⟨entityType, id⟩ entry ↔
      catalog.live host ⟨entityType, id⟩ = .ok (some entry) := by
  constructor
  · rintro ⟨streams, built⟩
    exact (liveEntry_eq_live steady id streams).symm.trans built
  · intro built
    exact ⟨.none, built⟩

/-! ## What the build of a record comes to -/

variable {owner : Ref}

/-- The record is there, and a build gives these texts for it, whatever was read before. -/
def Gives (catalog : Catalog) (host : Host) (owner : Ref) (texts : SearchTexts) : Prop :=
  ∃ snapshot, host.snapshot owner.entityType owner.id.value = .ok (some snapshot) ∧
    (catalog.registry.build host.view owner.entityType snapshot).Yields (.ok texts)

/-- The record cannot be fetched, or its texts cannot be built. -/
def Raises (catalog : Catalog) (host : Host) (owner : Ref) : Prop :=
  (∃ failure, host.snapshot owner.entityType owner.id.value = .error failure) ∨
    ∃ snapshot failure, host.snapshot owner.entityType owner.id.value = .ok (some snapshot) ∧
      (catalog.registry.build host.view owner.entityType snapshot).Yields (.error failure)

theorem live_eq_none_iff :
    catalog.live host owner = .ok none ↔
      host.fetch owner.entityType owner.id.value = .ok none := by
  simp only [live, liveEntry_source, Host.snapshot_eq_fetch]
  cases fetched : host.fetch owner.entityType owner.id.value with
  | error failure => simp [bind, Except.bind]
  | ok fields? =>
      cases fields? with
      | none => simp [bind, Except.bind, pure, Except.pure]
      | some fields =>
          cases Host.checkedRef owner.entityType owner.id.value with
          | error failure => simp [bind, Except.bind]
          | ok ref =>
              simp only [bind, Except.bind, pure, Except.pure]
              split <;> simp

theorem live_of_snapshot {snapshot : Snapshot}
    (found : host.snapshot owner.entityType owner.id.value = .ok (some snapshot)) :
    (∃ texts, (catalog.registry.build host.view owner.entityType snapshot .none).1 = .ok texts ∧
        catalog.live host owner = .ok (some ⟨owner, .ofTexts texts⟩)) ∨
      ∃ cause failure,
        (catalog.registry.build host.view owner.entityType snapshot .none).1 = .error cause ∧
          catalog.live host owner = .error failure := by
  have isOwner : snapshot.ref = owner := Host.ref_of_snapshot found
  simp only [live, liveEntry_source, found]
  cases catalog.registry.build host.view owner.entityType snapshot .none with
  | mk outcome after =>
      cases outcome with
      | error cause => exact Or.inr ⟨cause, _, rfl, rfl⟩
      | ok texts => exact Or.inl ⟨texts, rfl, by rw [isOwner]⟩

section Steady

variable (steady : catalog.IsSteady host owner.entityType)
include steady

theorem yields_build {snapshot : Snapshot}
    (found : host.snapshot owner.entityType owner.id.value = .ok (some snapshot)) :
    (catalog.registry.build host.view owner.entityType snapshot).Yields
      (catalog.registry.build host.view owner.entityType snapshot .none).1 :=
  (Registry.isIndifferent_build (steady owner.id snapshot found)).yields .none

theorem live_eq_some_iff (texts : SearchTexts) :
    catalog.live host owner = .ok (some ⟨owner, .ofTexts texts⟩) ↔
      catalog.Gives host owner texts := by
  constructor
  · intro built
    cases found : host.snapshot owner.entityType owner.id.value with
    | error failure => simp [live, liveEntry_source, found] at built
    | ok snapshot? =>
        cases snapshot? with
        | none => simp [live, liveEntry_source, found] at built
        | some snapshot =>
            refine ⟨snapshot, found, ?_⟩
            rcases live_of_snapshot found with ⟨given, now, live⟩ | ⟨-, failure, -, live⟩
            · rw [live] at built
              have sameTexts : given = texts := by
                cases given
                cases texts
                cases built
                rfl
              have yields := yields_build steady found
              rwa [now, sameTexts] at yields
            · rw [live] at built
              cases built
  · rintro ⟨snapshot, found, yields⟩
    have now := yields .none
    rcases live_of_snapshot found with ⟨given, same, live⟩ | ⟨cause, -, fails, -⟩
    · rw [now] at same
      cases same
      exact live
    · rw [now] at fails
      cases fails

theorem live_eq_error_iff :
    (∃ failure, catalog.live host owner = .error failure) ↔ catalog.Raises host owner := by
  constructor
  · rintro ⟨failure, fails⟩
    cases found : host.snapshot owner.entityType owner.id.value with
    | error cause => exact Or.inl ⟨cause, found⟩
    | ok snapshot? =>
        cases snapshot? with
        | none => simp [live, liveEntry_source, found] at fails
        | some snapshot =>
            rcases live_of_snapshot found with ⟨given, -, live⟩ | ⟨cause, -, now, -⟩
            · rw [live] at fails
              cases fails
            · have yields := yields_build steady found
              rw [now] at yields
              exact Or.inr ⟨snapshot, cause, found, yields⟩
  · rintro (⟨cause, unfetched⟩ | ⟨snapshot, cause, found, yields⟩)
    · simp [live, liveEntry_source, unfetched]
    · rcases live_of_snapshot found with ⟨given, same, -⟩ | ⟨-, failure, -, live⟩
      · rw [yields .none] at same
        cases same
      · exact ⟨failure, live⟩

end Steady

end Catalog

end ShadowIndex
