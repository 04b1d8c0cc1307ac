import ShadowIndex.Proofs.Application.Tidiness
import ShadowIndex.Proofs.Index.Mending
import ShadowIndex.Proofs.Index.OwnFields

/-!
Contract: entries that stay true, whichever operations fail.

Owns:
- `Application.IsReliable`: an entry of a type that looks fresh is one that its record has when no
  look-up fails;
- where a type reads the records themselves, every turn keeps an application reliable, for any ids
  and whatever fails (`reliable_after`, `reliable_afterAll`).

Does not own: what is found by searches.
-/

set_option autoImplicit false

namespace ShadowIndex

/-- Whether an operation, if it declares a field of a type with an extractor, declares one that reads
the record itself. -/
def Operation.DeclaresOwn (entityType : String) : Operation → Prop
  | define declaredType _ (.extractor rule) _ => declaredType = .str entityType → rule.IsOwn
  | _ => True

namespace Application

/-- An application with the service subscribed, without records and without entries. -/
structure IsBlank (application : Application) : Prop where
  subscribed : application.listeners = [.service]
  unrecorded : application.host.records = .empty
  real : application.host.outage.phantoms = []
  opened : application.store.requireOpen = .ok ()
  unindexed : application.store.entries = []

/-- An application in which an entry of a type that looks fresh is true, once no look-up fails, and
which rebuilds stale entries when it searches. -/
structure IsReliable (entityType : String) (application : Application) : Prop where
  subscribed : application.listeners = [.service]
  keyed : application.host.IsKeyed fun _ => True
  proper : application.store.IsProper
  rebuilds : application.catalog.settings.reindexOnSearch = true
  own : application.catalog.ReadsOwn entityType
  sound : ∀ owner, owner.entityType = entityType →
    application.catalog.Sound application.host.calm owner (application.store.find? owner)

variable {application : Application} {entityType : String}

theorem IsBlank.reliable (blank : application.IsBlank)
    (rebuilds : application.catalog.settings.reindexOnSearch = true)
    (own : application.catalog.ReadsOwn entityType) : application.IsReliable entityType where
  subscribed := blank.subscribed
  keyed := Host.isKeyed_of_unrecorded blank.unrecorded blank.real
  proper := ⟨⟨blank.opened, fun _ accepts => accepts⟩, fun owner present => by
    rw [Store.find?_of_unindexed blank.unindexed] at present
    cases present⟩
  rebuilds := rebuilds
  own := own
  sound := fun owner _ => by
    rw [Store.find?_of_unindexed blank.unindexed]
    exact Index.sound_none owner

/-! ## One turn -/

/-- Which look-ups fail does not matter to what is true once none does. -/
theorem IsReliable.before (reliable : application.IsReliable entityType) (turn : Turn) :
    (turn.before application).IsReliable entityType :=
  ⟨reliable.subscribed, ⟨reliable.keyed.keyed, rfl⟩, reliable.proper, reliable.rebuilds,
    reliable.own, reliable.sound⟩

/-- What is declared for a type reads the record itself, if it has to. -/
theorem isOwn_of_source {text : String} {name : Value} {rule : FieldRule} {inFullText : Bool}
    {field : Field}
    (declares : (Operation.define (.str text) name rule inFullText).DeclaresOwn entityType)
    (isType : entityType = text)
    (source : (∃ extractor, rule = .extractor extractor ∧ field.source = .extractor extractor) ∨
      ∃ target, field.source = .alias text target) : field.IsOwn entityType := by
  unfold Field.IsOwn
  rcases source with ⟨extractor, rfl, isSource⟩ | ⟨target, isSource⟩
  · rw [isSource]
    exact declares (by rw [isType])
  · rw [isSource]
    exact isType.symm

/-- A type still reads the records themselves after a declaration of a field that does. -/
theorem readsOwn_of_declare {former later : Catalog} {text name : String} {field : Field}
    (own : former.ReadsOwn entityType)
    (fields : ∀ other, later.registry.get other =
      if other = text then (former.registry.get other).declare name field
      else former.registry.get other)
    (isOwn : entityType = text → field.IsOwn entityType) : later.ReadsOwn entityType := by
  by_cases isType : entityType = text
  · intro row member
    rw [fields, if_pos isType] at member
    rcases Registry.mem_rows_declare member with rfl | isOld
    · exact isOwn isType
    · exact own row isOld
  · exact own.congr (by rw [fields, if_neg isType])

section Work

variable (reliable : application.IsReliable entityType)
include reliable

/-- Work on the index that mends it. -/
theorem reliable_onIndex {α : Type} {action : Catalog → Source → Action Index α}
    (reflects : application.source.Reflects application.host)
    (mends : Index.Respects (Index.Mends application.catalog application.source)
      (action application.catalog application.source)) :
    ((Action.discarding (onIndex action)) application).2.IsReliable entityType := by
  have mended := mends (Index.runs_self _ application.service.index)
  exact ⟨reliable.subscribed, reliable.keyed, mended.proper reliable.proper, reliable.rebuilds,
    reliable.own, fun owner isType => by
      subst isType
      exact mended.sound_calm reflects reliable.own (reliable.sound owner rfl)⟩

/-- Before a notification, an entry that is not to be told of the change is true for the host as it
is now. -/
theorem sound_of_alters {kind : ChangeKind} {record : Ref} {host : Host}
    (alters : Host.Alters kind record application.host host) {owner : Ref}
    (isType : owner.entityType = entityType)
    (untold : owner = record → ¬ (kind = .destroy ∨
      application.catalog.registry.isRegistered record.entityType = true)) :
    application.catalog.Sound host.calm owner (application.store.find? owner) := by
  subst isType
  have sound := reliable.sound owner rfl
  by_cases isRecord : owner = record
  · subst isRecord
    obtain ⟨stays, unregistered⟩ := not_or.1 (untold rfl)
    cases isKind : kind with
    | destroy => exact absurd isKind stays
    | create =>
        intro entry held fresh
        have present := Index.present_of_builds rfl (sound entry held fresh)
        have absent := alters.created isKind
        simp only [Host.calm, absent, Option.isSome_none, Bool.false_eq_true] at present
    | update =>
        obtain ⟨stored, found, -⟩ := alters.remains stays
        apply Index.sound_of_liveEntry_eq _ sound
        intro _ _
        exact Index.liveEntry_of_unregistered rfl rfl (by simpa using unregistered)
          (alters.existed (by simp [isKind])) (by simp [Host.calm, found])
  · have calm : Host.ChangesOnly record application.host.calm host.calm :=
      ⟨alters.relations, rfl, alters.records, alters.destroyed⟩
    exact Index.sound_of_snapshot reliable.own rfl (calm.snapshot_of_ne isRecord) sound

theorem reliable_of_alteration (reflects : ∀ host, (application.sight host).Reflects host)
    {kind : ChangeKind} {record : Ref} {after : Application}
    (alteration : Alteration kind record application after) : after.IsReliable entityType := by
  cases alteration with
  | refused counters =>
      exact ⟨reliable.subscribed, ⟨reliable.keyed.keyed, reliable.keyed.real⟩, reliable.proper,
        reliable.rebuilds, reliable.own, reliable.sound⟩
  | committed host note alters =>
      have told := Index.runs_self
        (Index.onChange application.catalog (application.sight host)
          ⟨kind, record.entityType, record.id.value⟩)
        (application.service.index.record (.note note))
      have mended := Index.respects_onChange kind told
      refine ⟨reliable.subscribed, alters.isKeyed reliable.keyed trivial,
        mended.proper reliable.proper, reliable.rebuilds, reliable.own, fun owner isType => ?_⟩
      subst isType
      by_cases isTold : owner = record ∧
          (kind = .destroy ∨ application.catalog.registry.isRegistered record.entityType = true)
      · obtain ⟨rfl, settled⟩ := isTold
        exact (Index.settled_onChange reliable.proper settled told).calm reliable.own
          (reflects host)
      · apply mended.sound_calm (reflects host) reliable.own
        exact sound_of_alters reliable alters rfl fun isRecord settled => isTold ⟨isRecord, settled⟩

/-- After a declaration the entries of its type are flagged. -/
theorem reliable_define {declaredType name : Value} {rule : FieldRule} {inFullText : Bool}
    (declares : (Operation.define declaredType name rule inFullText).DeclaresOwn entityType) :
    ((Operation.define declaredType name rule inFullText).after application).IsReliable
      entityType := by
  cases declared : Service.declareIn application.catalog.registry declaredType name inFullText rule with
  | mk outcome registry =>
      rcases declareIn_inv declared with
        ⟨⟨failure, rfl⟩, fields⟩ | ⟨text, fieldName, field, rfl, -, rfl, source, fields⟩
      · rw [after_define_of_refused declared]
        refine ⟨reliable.subscribed, reliable.keyed, reliable.proper, reliable.rebuilds,
          reliable.own.congr (fields entityType), fun owner isType => ?_⟩
        subst isType
        exact Index.sound_of_snapshot reliable.own (fields _) rfl (reliable.sound owner rfl)
      · have flagged := marking_inv reliable.proper (Index.runs_self
          (do let _ ← Action.each Index.note
                (Service.declarationNotes application.catalog.registry text fieldName field)
              Index.markType text) application.service.index)
        rw [after_define_of_accepted declared]
        refine ⟨reliable.subscribed, reliable.keyed,
          .of_kind (holds_of_flagged reliable.proper flagged) flagged.kind, reliable.rebuilds, ?_,
          fun owner isType => ?_⟩
        · exact readsOwn_of_declare reliable.own fields fun isType => isOwn_of_source declares isType
            source
        · subst isType
          rw [flagged.found]
          by_cases isDeclared : owner.entityType = text
          · simp only [isDeclared, if_true]
            intro entry isHeld fresh
            obtain ⟨former, -, rfl⟩ := Option.map_eq_some_iff.1 isHeld
            cases fresh
          · simp only [isDeclared, if_false]
            have sameFields := fields owner.entityType
            rw [if_neg isDeclared] at sameFields
            exact Index.sound_of_snapshot reliable.own sameFields rfl (reliable.sound owner rfl)

/-- Every turn keeps an application reliable, whether or not its operation fails. -/
theorem reliable_after {turn : Turn} (names : turn.Names (fun _ => True) application)
    (declares : turn.operation.DeclaresOwn entityType) :
    (turn.after application).IsReliable entityType := by
  have ready := reliable.before turn
  have reflects (host : Host) : ((turn.before application).sight host).Reflects host :=
    host.under_reflects turn.faults
  obtain ⟨operation, faults⟩ := turn
  cases operation with
  | create recordType fields =>
      obtain ⟨id, -, assigned⟩ := names
      exact reliable_of_alteration ready reflects (alteration_of_create ready.subscribed assigned)
  | update recordType id fields =>
      exact reliable_of_alteration ready reflects
        (alteration_of_update ready.subscribed ready.keyed)
  | destroy recordType id =>
      exact reliable_of_alteration ready reflects (alteration_of_destroy ready.subscribed)
  | define declaredType name rule inFullText => exact reliable_define ready declares
  | search searchedType text scope =>
      exact reliable_onIndex ready (reflects _)
        (Index.respects_search ready.keyed (reflects _) text scope)
  | reindex indexedType => exact reliable_onIndex ready (reflects _) Index.respects_reindexAll
  | rebuild indexedType =>
      exact reliable_onIndex ready (reflects _)
        (Index.respects_rebuildAll ready.keyed (reflects _))

end Work

/-! ## Runs -/

theorem reliable_afterAll (reliable : application.IsReliable entityType) {turns : List Turn}
    (named : Turn.Along (Turn.Names fun _ => True) application turns)
    (declares : ∀ turn ∈ turns, turn.operation.DeclaresOwn entityType) :
    (Turn.afterAll application turns).IsReliable entityType := by
  have keeps : Run.Keeps Turn.after
      (fun state turn => turn.Names (fun _ => True) state ∧ turn.operation.DeclaresOwn entityType)
      (IsReliable entityType) :=
    fun _ _ reliable ⟨names, declares⟩ => reliable_after reliable names declares
  exact keeps.afterAll reliable (Run.along_and.2 ⟨named, Run.along_of_forall declares⟩)

end Application

end ShadowIndex
