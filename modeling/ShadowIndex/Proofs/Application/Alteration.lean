import ShadowIndex.Proofs.Application.Effect

/-!
Contract: what an operation on one record does to an application, whether or not it fails.

Owns:
- `Host.Alters`, a committed change of one record;
- `Application.Alteration`: nothing is changed but the count of given numbers, or a change is
  committed and the service is notified;
- creations, updates and destructions are alterations (`alteration_of_create`,
  `alteration_of_update`, `alteration_of_destroy`).

Does not own: what a notification does.
-/

set_option autoImplicit false

namespace ShadowIndex

/-! ## Committed changes -/

/-- One record was created, updated or destroyed. -/
structure Host.Alters (kind : ChangeKind) (record : Ref) (before after : Host) : Prop
    extends Host.ChangesOnly record before after where
  created : kind = .create → before.records.find? (record.entityType, record.id.key) = none
  existed : kind ≠ .create → before.IsLive record
  remains : kind ≠ .destroy → ∃ stored,
    after.records.find? (record.entityType, record.id.key) = some stored ∧
      stored.id = record.id.value
  removed : kind = .destroy → after.records.find? (record.entityType, record.id.key) = none

namespace Host.Alters

variable {kind : ChangeKind} {record : Ref} {before after : Host} {ids : Id → Prop}
variable (alters : Host.Alters kind record before after)
include alters

theorem isLive (stays : kind ≠ .destroy) : after.IsLive record := by
  obtain ⟨stored, found, -⟩ := alters.remains stays
  simp [IsLive, found]

/-- Only ids of new records have to be known otherwise. -/
theorem known (keyed : before.IsKeyed ids) (given : kind = .create → ids record.id) :
    ids record.id := by
  by_cases isCreate : kind = .create
  · exact given isCreate
  · obtain ⟨stored, found⟩ := Option.isSome_iff_exists.1 (alters.existed isCreate)
    obtain ⟨other, -, isKey, known⟩ := keyed.keyed _ _ _ found
    rwa [Id.key_injective isKey]

theorem isKeyed (keyed : before.IsKeyed ids) (known : ids record.id) : after.IsKeyed ids := by
  apply alters.toChangesOnly.isKeyed keyed known
  intro stored found
  by_cases isDestroy : kind = .destroy
  · rw [alters.removed isDestroy] at found
    cases found
  · obtain ⟨other, present, isId⟩ := alters.remains isDestroy
    rw [present] at found
    cases found
    exact isId

end Host.Alters

namespace Application

/-! ## Operations on one record -/

/-- An application before and after an operation on one record. -/
inductive Alteration (kind : ChangeKind) (record : Ref) (before : Application) : Application → Prop
  | refused (counters : Table String Nat) :
      Alteration kind record before
        { before with host := { before.host with counters := counters } }
  | committed (host : Host) (note : Note) (alters : Host.Alters kind record before.host host) :
      Alteration kind record before
        { before with
          host := host
          service := { before.service with
            index := (Index.onChange before.catalog (before.sight host)
              ⟨kind, record.entityType, record.id.value⟩
              (before.service.index.record (.note note))).2 } }

variable {ids : Id → Prop} {application : Application} {recordType : String} {id : Id}
  {fields : Fields}

/-- A commit that is told leaves what the notification leaves, also if that fails. -/
theorem alteration_of_announce {α : Type} {action : Action Application α} {kind : ChangeKind}
    {record : Ref} {host : Host} {note : Note} {value : α}
    (subscribed : application.listeners = [.service])
    (alters : Host.Alters kind record application.host host)
    (announces : action application =
      (do Application.note note
          tellAll ⟨kind, record.entityType, record.id.value⟩
          return value : Action Application α) { application with host := host }) :
    Alteration kind record application (action.discarding application).2 := by
  rw [Action.discarding, announces, @announce_apply α { application with host := host } subscribed]
  exact .committed host note alters

variable (subscribed : application.listeners = [.service])
include subscribed

theorem alteration_of_create
    (assigned : (application.host.assignId recordType
      ((fields.find? "id").getD .nothing)).1 = id.value) :
    Alteration .create ⟨recordType, id⟩ application
      ((Operation.create recordType fields).after application) := by
  cases created : application.host.create recordType fields with
  | mk outcome host =>
      obtain ⟨counters, ⟨⟨failure, rfl⟩, rfl⟩ | ⟨rfl, absent, added⟩⟩ :=
        Host.create_inv assigned created
      · rw [Operation.after, Operation.run, Action.discarding, create_of_error created]
        exact .refused counters
      · have alters : Host.Alters .create ⟨recordType, id⟩ application.host host :=
          { Host.changesOnly_create added with
            created := fun _ => absent
            existed := by simp
            remains := fun _ => ⟨_, Host.find?_create added, rfl⟩
            removed := by simp }
        exact alteration_of_announce subscribed alters (create_of_ok created)

theorem alteration_of_update (keyed : application.host.IsKeyed ids) :
    Alteration .update ⟨recordType, id⟩ application
      ((Operation.update recordType id fields).after application) := by
  cases updated : application.host.update recordType id.value fields with
  | error failure =>
      rw [Operation.after, Operation.run, Action.discarding, update_of_error updated]
      exact .refused application.host.counters
  | ok given =>
      obtain ⟨held, host⟩ := given
      obtain ⟨record, found, changed⟩ := Host.update_inv updated
      obtain ⟨other, isId, isKey, -⟩ := keyed.keyed _ _ _ found
      obtain rfl : id = other := Id.key_injective isKey
      have alters : Host.Alters .update ⟨recordType, id⟩ application.host host :=
        { Host.changesOnly_update changed with
          created := by simp
          existed := fun _ => by simp [Host.IsLive, found]
          remains := fun _ => ⟨_, Host.find?_update found changed, isId⟩
          removed := by simp }
      exact alteration_of_announce subscribed alters (update_of_ok updated)

theorem alteration_of_destroy :
    Alteration .destroy ⟨recordType, id⟩ application
      ((Operation.destroy recordType id).after application) := by
  rcases application.host.destroy_cases recordType id with
    ⟨removed, -⟩ | ⟨record, host, removed, found, isGone⟩
  · rw [Operation.after, Operation.run, Action.discarding, destroy_of_absent removed]
    exact .refused application.host.counters
  · have alters : Host.Alters .destroy ⟨recordType, id⟩ application.host host :=
      { Host.changesOnly_destroy isGone with
        created := by simp
        existed := fun _ => by simp [Host.IsLive, found]
        remains := by simp
        removed := fun _ => Host.find?_destroy isGone }
    exact alteration_of_announce subscribed alters (destroy_of_present removed)

end Application

end ShadowIndex
