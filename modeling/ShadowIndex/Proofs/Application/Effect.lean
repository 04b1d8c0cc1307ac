import ShadowIndex.Proofs.Application.Operation
import ShadowIndex.Proofs.Index.Departure
import ShadowIndex.Proofs.Schema.Declared

/-!
Contract: the three ways in which an operation changes an application.

Owns:
- `Application.Effect`: an operation keeps the index up, declares a field, or commits a change of
  one record and tells of it;
- every operation that fits has such an effect (`effect_of_run`), and no effect makes an application
  unready (`Effect.ready`).

Does not own: whether entries are true.
-/

set_option autoImplicit false

namespace ShadowIndex.Application

/-! ## Work on the index -/

/-- An application before and after an action on its index. -/
structure IndexRuns {α : Type} (action : Action Index α) (before : Application)
    (outcome : Except Failure α) (after : Application) : Prop where
  host : after.host = before.host
  catalog : after.catalog = before.catalog
  listeners : after.listeners = before.listeners
  sight : after.sight = before.sight
  runs : Index.Runs action before.store outcome after.store

variable {α : Type} {application : Application} {ids : Id → Prop} {entityType : String} {id : Id}

theorem indexRuns_onIndex (action : Catalog → Source → Action Index α)
    (application : Application) :
    IndexRuns (action application.catalog application.source) application
      (onIndex action application).1 (onIndex action application).2 :=
  ⟨rfl, rfl, rfl, rfl, Index.runs_self _ _⟩

/-- Where the service is the only listener, telling of a change is its notification. -/
theorem announce_apply (subscribed : application.listeners = [.service]) (note : Note)
    (change : Change) (value : α) :
    (do Application.note note; tellAll change; return value : Action Application α) application =
      let (result, index) := Index.onChange application.catalog application.source change
        (application.service.index.record (.note note))
      (result.map fun _ => value,
        { application with service := { application.service with index := index } }) := by
  obtain ⟨host, sight, ⟨catalog, index⟩, listeners, heard⟩ := application
  cases subscribed
  cases ran : Index.onChange catalog (sight host) change (index.record (.note note)) with
  | mk result finished =>
      have first : Application.note note ⟨host, sight, ⟨catalog, index⟩, [.service], heard⟩ =
          (.ok (), ⟨host, sight, ⟨catalog, index.record (.note note)⟩, [.service], heard⟩) := rfl
      have second : tell change .service
          ⟨host, sight, ⟨catalog, index.record (.note note)⟩, [.service], heard⟩ =
            (result, ⟨host, sight, ⟨catalog, finished⟩, [.service], heard⟩) := by
        simp only [tell, onIndex, onService, Service.onIndex, source, ran]
      simp only [Action.bind_apply, first, tellAll, Action.read, Action.each, second, source, ran]
      cases result <;> rfl

theorem host_announce (subscribed : application.listeners = [.service]) (note : Note)
    (change : Change) (value : α) :
    ((do Application.note note; tellAll change; return value : Action Application α)
      application).2.host = application.host := by
  rw [announce_apply subscribed]

theorem indexRuns_announce (subscribed : application.listeners = [.service]) (note : Note)
    (change : Change) (value : α) :
    ∃ result,
      ((do Application.note note; tellAll change; return value : Action Application α)
        application).1 = result.map (fun _ => value) ∧
      IndexRuns (Index.onChange application.catalog application.source change) application result
        ((do Application.note note; tellAll change; return value : Action Application α)
          application).2 := by
  have told := Index.runs_self (Index.onChange application.catalog application.source change)
    (application.service.index.record (.note note))
  rw [announce_apply subscribed]
  exact ⟨_, rfl, rfl, rfl, rfl, rfl, told⟩

/-! ## Commits -/

section Commits

variable {recordType : String} {fields : Fields} {host : Host}

theorem create_of_error {failure : Failure}
    (created : application.host.create recordType fields = (.error failure, host)) :
    Application.create recordType fields application =
      (.error failure, { application with host := host }) := by
  simp only [Application.create, Action.bind_apply, commit, created]

/-- A creation that is committed is told. -/
theorem create_of_ok {given : Value}
    (created : application.host.create recordType fields = (.ok given, host)) :
    Application.create recordType fields application =
      (do note (.recordCreated recordType given)
          tellAll ⟨.create, recordType, given⟩
          return given : Action Application Value) { application with host := host } := by
  rw [Application.create, Action.bind_apply]
  simp only [commit, created]

theorem update_of_error {failure : Failure}
    (updated : application.host.update recordType id.value fields = .error failure) :
    Application.update recordType id.value fields application = (.error failure, application) := by
  simp only [Application.update, Action.bind_apply, commit, updated, orSame]

/-- An update that is committed is told. -/
theorem update_of_ok {held : Fields}
    (updated : application.host.update recordType id.value fields = .ok (held, host)) :
    Application.update recordType id.value fields application =
      (do note (.recordUpdated recordType id.value fields.keys)
          tellAll ⟨.update, recordType, id.value⟩
          return held : Action Application Fields) { application with host := host } := by
  simp only [Application.update, Action.bind_apply, commit, updated, orSame]

theorem destroy_of_absent
    (removed : application.host.destroy recordType id.value = .ok (false, application.host)) :
    Application.destroy recordType id.value application = (.ok false, application) := by
  simp only [Application.destroy, Action.bind_apply, commit, removed, orSame]
  rfl

/-- A destruction that is committed is told. -/
theorem destroy_of_present
    (removed : application.host.destroy recordType id.value = .ok (true, host)) :
    Application.destroy recordType id.value application =
      (do note (.recordDestroyed recordType id.value)
          tellAll ⟨.destroy, recordType, id.value⟩
          return true : Action Application Bool) { application with host := host } := by
  simp only [Application.destroy, Action.bind_apply, commit, removed, orSame, if_true]

end Commits

/-! ## Effects -/

/-- A change of one record that is committed and told in full. -/
structure Committed (ids : Id → Prop) (kind : ChangeKind) (record : Ref)
    (before after : Application) : Prop where
  commits : Host.Commits kind record before.host after.host
  orderly : after.host.IsOrderly ids
  known : ids record.id
  catalog : after.catalog = before.catalog
  listeners : after.listeners = before.listeners
  sight : after.sight = before.sight
  notifies : Index.Notifies before.catalog after.host
    (Index.Told before.catalog after.host kind record.entityType record.id)
    before.store (.ok ()) after.store

/-- How an operation changes an application. Either the index is kept up and all else is as it was,
or a field is declared and the entries of its type are flagged, or a change of one record is
committed and told. -/
inductive Effect (ids : Id → Prop) (entityType : String) (before after : Application) : Prop
  | maintained (counters : Table String Nat)
      (host : after.host = { before.host with counters := counters })
      (fields : ∀ other, after.catalog.registry.get other = before.catalog.registry.get other)
      (edges : after.catalog.dependencies = before.catalog.dependencies)
      (listeners : after.listeners = before.listeners) (sight : after.sight = before.sight)
      (upkeep : Index.Upkeep before.catalog before.host (Index.everywhere ids)
        before.store after.store)
  | declared (declaredType name : String) (field : Field) (named : declaredType ≠ "")
      (traced : declaredType = entityType →
        field.IsTraced before.catalog.dependencies before.host entityType)
      (host : after.host = before.host)
      (fields : ∀ other, after.catalog.registry.get other =
        if other = declaredType then (before.catalog.registry.get other).declare name field
        else before.catalog.registry.get other)
      (edges : after.catalog.dependencies = before.catalog.dependencies)
      (listeners : after.listeners = before.listeners) (sight : after.sight = before.sight)
      (flagged : before.store.Becomes (fun owner =>
        if owner.entityType = declaredType then (before.store.find? owner).map Entry.asStale
        else before.store.find? owner) after.store)
  | committed (kind : ChangeKind) (record : Ref) (done : Committed ids kind record before after)

variable {before after : Application}

theorem effect_of_upkeep {action : Action Index α} {outcome : Except Failure α}
    (ready : before.IsReady ids entityType)
    (upkeep : Index.IsUpkeep before.catalog before.source ids (Index.everywhere ids) action)
    (ran : IndexRuns action before outcome after) : Effect ids entityType before after := by
  rw [ready.source_eq] at upkeep
  exact .maintained before.host.counters ran.host (fun other => by rw [ran.catalog])
    (by rw [ran.catalog]) ran.listeners ran.sight (upkeep ready.holds ran.runs)

/-- A commit is told in full, unless the program ends. -/
theorem committed_of_announce (ready : application.IsReady ids entityType) {host : Host}
    {kind : ChangeKind} {record : Ref} (commits : Host.Commits kind record application.host host)
    (orderly : host.IsOrderly ids) (known : ids record.id) {action : Action Application α}
    {note : Note} {value : α}
    (announces : action application =
      (do Application.note note
          tellAll ⟨kind, record.entityType, record.id.value⟩
          return value : Action Application α) { application with host := host })
    (goesOn : ∀ failure, (action.discarding application).1 = .error failure →
      failure.isEnding = false) :
    Committed ids kind record application (action.discarding application).2 := by
  obtain ⟨result, isOutcome, ran⟩ := @indexRuns_announce α { application with host := host }
    ready.subscribed note ⟨kind, record.entityType, record.id.value⟩ value
  have sees : ({ application with host := host } : Application).source = host := by
    rw [Application.source, ready.sees]
  rw [sees] at ran
  rw [← announces] at isOutcome ran
  have notifiable : Index.Notifiable application.catalog host ids record.entityType record.id :=
    ⟨known, ready.named, orderly.resolves record.entityType record.id⟩
  have notifies := Index.isNotifying_onChange notifiable kind ready.holds ran.runs
  have sameHost : (action.discarding application).2.host = host := ran.host
  cases result with
  | ok _ =>
      subst sameHost
      exact ⟨commits, orderly, known, ran.catalog, ran.listeners, ran.sight, notifies⟩
  | error failure =>
      have ends := notifies.ending failure rfl
      have failed : (action.discarding application).1 = .error failure := by
        show (action application).1.map (fun _ => ()) = .error failure
        rw [isOutcome]
        rfl
      rw [goesOn failure failed] at ends
      cases ends

/-! ## Changes of records -/

/-- A commit that fails has changed no record. -/
theorem effect_of_counters (counters : Table String Nat) :
    Effect ids entityType application
      { application with host := { application.host with counters := counters } } :=
  .maintained counters rfl (fun _ => rfl) rfl rfl rfl (Index.Upkeep.refl _)

section Records

variable (ready : application.IsReady ids entityType)
include ready

theorem effect_of_create {recordType : String} {fields : Fields}
    (fits : (Operation.create recordType fields).Fits ids entityType application)
    (goesOn : (Operation.create recordType fields).GoesOn application) :
    Effect ids entityType application ((Operation.create recordType fields).after application) := by
  obtain ⟨takes, id, known, assigned⟩ := fits
  cases created : application.host.create recordType fields with
  | mk outcome host =>
      obtain ⟨counters, ⟨⟨failure, rfl⟩, rfl⟩ | ⟨rfl, absent, added⟩⟩ :=
        Host.create_inv assigned created
      · have same : (Operation.create recordType fields).after application =
            { application with host := { application.host with counters := counters } } := by
          rw [Operation.after, Operation.run, Action.discarding, create_of_error created]
        rw [same]
        exact effect_of_counters counters
      · have announces := create_of_ok created
        have commits : Host.Commits .create ⟨recordType, id⟩ application.host host :=
          { Host.changesOnly_create added with
            created := fun _ => absent
            updated := by simp
            remembered := by
              intro _ field other holds
              rw [Host.fieldOf_of_absent absent] at holds
              exact absurd holds.symm (Id.value_ne_nothing other) }
        have orderly := Host.IsOrderly.create added ready.orderly known takes
        exact .committed .create ⟨recordType, id⟩
          (committed_of_announce ready commits orderly known announces goesOn)

/-- An update fails and changes nothing, or is committed. -/
theorem update_cases {recordType : String} {changes : Fields}
    (fits : (Operation.update recordType id changes).Fits ids entityType application)
    (goesOn : (Operation.update recordType id changes).GoesOn application) :
    (∃ failure, ((Operation.update recordType id changes).run application).1 = .error failure) ∧
        (Operation.update recordType id changes).after application = application ∨
      Committed ids .update ⟨recordType, id⟩ application
        ((Operation.update recordType id changes).after application) := by
  cases updated : application.host.update recordType id.value changes with
  | error failure =>
      have ran : (Operation.update recordType id changes).run application =
          (.error failure, application) := by
        rw [Operation.run, Action.discarding, update_of_error updated]
        rfl
      exact Or.inl ⟨⟨failure, by rw [ran]⟩, by rw [Operation.after, ran]⟩
  | ok given =>
      obtain ⟨fields, host⟩ := given
      obtain ⟨record, found, changed⟩ := Host.update_inv updated
      have announces := update_of_ok updated
      have present := Host.find?_update found changed
      have commits : Host.Commits .update ⟨recordType, id⟩ application.host host :=
        { Host.changesOnly_update changed with
          created := by simp
          updated := fun _ => ⟨by simp [found], by simp [present]⟩
          remembered := by simp }
      obtain ⟨other, -, isKey, known⟩ := ready.orderly.keyed _ _ _ found
      obtain rfl : id = other := Id.key_injective isKey
      have orderly := Host.IsOrderly.update found changed ready.orderly fits
      exact Or.inr (committed_of_announce ready commits orderly known announces goesOn)

theorem effect_of_destroy {recordType : String}
    (goesOn : (Operation.destroy recordType id).GoesOn application) :
    Effect ids entityType application ((Operation.destroy recordType id).after application) := by
  rcases application.host.destroy_cases recordType id with
    ⟨removed, -⟩ | ⟨record, host, removed, found, isGone⟩
  · rw [Operation.after, Operation.run, Action.discarding, destroy_of_absent removed]
    exact effect_of_counters application.host.counters
  · have commits : Host.Commits .destroy ⟨recordType, id⟩ application.host host :=
      { Host.changesOnly_destroy isGone with
        created := by simp
        updated := by simp
        remembered := by
          intro _ field other holds
          rw [Host.lastFieldOf_destroy found isGone, holds] }
    obtain ⟨other, -, isKey, known⟩ := ready.orderly.keyed _ _ _ found
    obtain rfl : id = other := Id.key_injective isKey
    have orderly := Host.IsOrderly.destroy found isGone ready.orderly
    have announces := destroy_of_present removed
    exact .committed .destroy ⟨recordType, id⟩
      (committed_of_announce ready commits orderly known announces goesOn)

end Records

/-! ## Declarations -/

/-- A declaration with any rule is refused and changes no fields, or adds a field with that rule. -/
theorem declareIn_inv {registry after : Registry} {given name : Value} {inFullText : Bool}
    {rule : FieldRule} {outcome : Except Failure (String × Field)}
    (declared : Service.declareIn registry given name inFullText rule = (outcome, after)) :
    ((∃ failure, outcome = .error failure) ∧ ∀ other, after.get other = registry.get other) ∨
      ∃ entityType fieldName field, given = .str entityType ∧ entityType ≠ "" ∧
        outcome = .ok (fieldName, field) ∧
        ((∃ extractor, rule = .extractor extractor ∧ field.source = .extractor extractor) ∨
          ∃ target, field.source = .alias entityType target) ∧
        ∀ other, after.get other =
          if other = entityType then (registry.get other).declare fieldName field
          else registry.get other := by
  cases rule with
  | extractor extractor =>
      simp only [Service.declareIn, Registry.defineField] at declared
      rcases Registry.declareChecked_inv declared with
        refused | ⟨entityType, fieldName, field, isText, named, accepted, checked, fields⟩
      · exact Or.inl refused
      · obtain ⟨-, rule, isRule, rfl⟩ := Registry.checkField_inv checked
        cases isRule
        exact Or.inr ⟨entityType, fieldName, _, isText, named, accepted,
          Or.inl ⟨extractor, rfl, rfl⟩, fields⟩
  | «alias» target =>
      simp only [Service.declareIn, Registry.defineQualifier] at declared
      rcases Registry.declareChecked_inv declared with
        refused | ⟨entityType, fieldName, field, isText, named, accepted, checked, fields⟩
      · exact Or.inl refused
      · obtain ⟨-, ⟨behind, -, rfl⟩, -⟩ := Registry.checkAlias_inv checked
        exact Or.inr ⟨entityType, fieldName, _, isText, named, accepted, Or.inr ⟨behind, rfl⟩,
          fields⟩
  | unusable =>
      simp only [Service.declareIn, Registry.defineField] at declared
      rcases Registry.declareChecked_inv declared with
        refused | ⟨entityType, fieldName, field, isText, named, accepted, checked, fields⟩
      · exact Or.inl refused
      · obtain ⟨-, extractor, impossible, -⟩ := Registry.checkField_inv checked
        cases impossible

/-- What follows a declaration flags every entry of its type. -/
theorem marking_inv {notes : List Note} {before after : Store} {outcome : Except Failure Unit}
    (holds : before.Holds ids)
    (runs : Index.Runs (do let _ ← Action.each Index.note notes; Index.markType entityType)
      before outcome after) :
    before.Becomes (fun owner =>
      if owner.entityType = entityType then (before.find? owner).map Entry.asStale
      else before.find? owner) after := by
  have single (note : Note) {start finish : Store} {result : Except Failure Unit}
      (step : Index.Runs (Index.note note) start result finish) :
      (∃ value, result = .ok value) ∧ finish = start :=
    ⟨⟨(), step.note_inv.1⟩, step.note_inv.2⟩
  rcases runs.bind_inv with ⟨values, middle, noted, rest⟩ | ⟨failure, -, noted⟩
  · obtain ⟨-, rfl⟩ := noted.each_calm_inv single
    exact (Index.markType_inv holds rest).2
  · obtain ⟨⟨values, impossible⟩, -⟩ := noted.each_calm_inv single
    cases impossible

theorem holds_of_flagged {before after : Store} (holds : before.Holds ids)
    (flagged : before.Becomes (fun owner =>
      if owner.entityType = entityType then (before.find? owner).map Entry.asStale
      else before.find? owner) after) : after.Holds ids where
  toServes := holds.toServes.of_kind flagged.kind
  stored := by
    intro owner present
    apply holds.stored owner
    rw [flagged.found] at present
    dsimp only at present
    split at present
    · simpa using present
    · exact present

section Declaration

variable {declaredType name : Value} {rule : FieldRule} {inFullText : Bool} {registry : Registry}

theorem after_define_of_refused {failure : Failure}
    (refused : Service.declareIn application.catalog.registry declaredType name inFullText rule =
      (.error failure, registry)) :
    (Operation.define declaredType name rule inFullText).after application =
      { application with service := application.service.setRegistry registry } := by
  simp only [Operation.after, Operation.run, Action.discarding, onService, Service.define, refused]

/-- After a declaration that is accepted, the entries of its type are flagged. -/
theorem after_define_of_accepted {text fieldName : String} {field : Field}
    (accepted : Service.declareIn application.catalog.registry (.str text) name inFullText rule =
      (.ok (fieldName, field), registry)) :
    (Operation.define (.str text) name rule inFullText).after application =
      { application with
        service := { application.service.setRegistry registry with
          index := ((do
            let _ ← Action.each Index.note
              (Service.declarationNotes application.catalog.registry text fieldName field)
            Index.markType text : Action Index Unit) application.service.index).2 } } := by
  cases ran : (do
      let _ ← Action.each Index.note
        (Service.declarationNotes application.catalog.registry text fieldName field)
      Index.markType text : Action Index Unit) application.service.index with
  | mk result index =>
      have onIndex : (Service.onIndex fun _ => do
          let _ ← Action.each Index.note
            (Service.declarationNotes application.catalog.registry text fieldName field)
          Index.markType text : Action Service Unit)
            (application.service.setRegistry registry) =
          (result, { application.service.setRegistry registry with index := index }) := by
        simp only [Service.onIndex, Service.setRegistry, ran]
      simp only [Operation.after, Operation.run, Action.discarding, onService,
        Service.define, accepted, onIndex]
      cases result <;> rfl

/-- A declaration is refused and changes no fields, or all entries of its type are flagged. -/
theorem effect_of_define (ready : application.IsReady ids entityType)
    (fits : (Operation.define declaredType name rule inFullText).Fits ids entityType application) :
    Effect ids entityType application
      ((Operation.define declaredType name rule inFullText).after application) := by
  cases declared : Service.declareIn application.catalog.registry declaredType name inFullText rule with
  | mk outcome registry =>
      rcases declareIn_inv declared with
        ⟨⟨failure, rfl⟩, fields⟩ | ⟨text, fieldName, field, rfl, named, rfl, source, fields⟩
      · rw [after_define_of_refused declared]
        exact .maintained application.host.counters rfl fields rfl rfl rfl (Index.Upkeep.refl _)
      · have marked := Index.runs_self
          (do let _ ← Action.each Index.note
                (Service.declarationNotes application.catalog.registry text fieldName field)
              Index.markType text) application.service.index
        rw [after_define_of_accepted declared]
        apply Effect.declared text fieldName field named
        · intro isType
          unfold Field.IsTraced
          rcases source with ⟨extractor, rfl, isSource⟩ | ⟨target, isSource⟩
          · rw [isSource]
            exact fits (by rw [isType])
          · rw [isSource]
            exact isType
        · rfl
        · exact fields
        · rfl
        · rfl
        · rfl
        · exact marking_inv ready.holds marked

end Declaration

/-! ## All operations -/

/-- Every operation that fits has one of the three effects, while the program goes on. -/
theorem effect_of_run (ready : application.IsReady ids entityType) {operation : Operation}
    (fits : operation.Fits ids entityType application) (goesOn : operation.GoesOn application) :
    Effect ids entityType application (operation.after application) := by
  have known (candidateType : String) : Index.ListsKnown application.source ids candidateType := by
    rw [ready.source_eq]
    exact fun _ _ _ listed _ member => ready.orderly.exists_id_of_candidates listed member
  cases operation with
  | create recordType fields => exact effect_of_create ready fits goesOn
  | update recordType id changes =>
      rcases update_cases ready fits goesOn with ⟨-, same⟩ | done
      · rw [same]
        exact effect_of_counters application.host.counters
      · exact .committed .update ⟨recordType, id⟩ done
  | destroy recordType id => exact effect_of_destroy ready goesOn
  | define declaredType name rule inFullText => exact effect_of_define ready fits
  | search searchedType text scope =>
      exact effect_of_upkeep ready (Index.isUpkeep_search (known searchedType) text scope)
        (indexRuns_onIndex
          (fun catalog source => Index.search catalog source searchedType text scope) application)
  | reindex indexedType =>
      exact effect_of_upkeep ready Index.isUpkeep_reindexAll
        (indexRuns_onIndex
          (fun catalog source => Index.reindexAll catalog source indexedType) application)
  | rebuild indexedType =>
      exact effect_of_upkeep ready (Index.isUpkeep_rebuildAll (known indexedType))
        (indexRuns_onIndex
          (fun catalog source => Index.rebuildAll catalog source indexedType) application)

theorem isRegistered_of_get {former later : Registry} {registered : String}
    (same : later.get registered = former.get registered) :
    later.isRegistered registered = former.isRegistered registered := by
  rw [Registry.isRegistered, Registry.isRegistered, same]

theorem Committed.ready {kind : ChangeKind} {record : Ref}
    (done : Committed ids kind record before after) (ready : before.IsReady ids entityType) :
    after.IsReady ids entityType := by
  have notifiable : Index.Notifiable before.catalog after.host ids record.entityType record.id :=
    ⟨done.known, ready.named, done.orderly.resolves record.entityType record.id⟩
  refine ⟨done.listeners.trans ready.subscribed, done.sight.trans ready.sees, done.orderly, ?_, ?_,
    ?_⟩
  · exact done.notifies.toUpkeep.holds
      (fun owner told => Index.known_of_told notifiable kind owner told) ready.holds
  · rw [done.catalog]
    exact ready.named
  · rw [done.catalog]
    exact ready.traces.congr rfl rfl done.commits.relations

/-- No effect makes an application unready. -/
theorem Effect.ready (effect : Effect ids entityType before after)
    (ready : before.IsReady ids entityType) : after.IsReady ids entityType := by
  cases effect with
  | maintained counters host fields edges listeners sight upkeep =>
      refine ⟨listeners.trans ready.subscribed, sight.trans ready.sees, ?_, ?_, ?_, ?_⟩
      · rw [host]
        exact ready.orderly.of_counters counters
      · exact upkeep.holds (fun _ known => known) ready.holds
      · intro registered isRegistered
        rw [isRegistered_of_get (fields registered)] at isRegistered
        exact ready.named registered isRegistered
      · exact ready.traces.congr (fields entityType) edges (by rw [host])
  | declared declaredType name field named traced host fields edges listeners sight flagged =>
      refine ⟨listeners.trans ready.subscribed, sight.trans ready.sees,
        by rw [host]; exact ready.orderly,
        holds_of_flagged ready.holds flagged, ?_, ?_⟩
      · intro registered isRegistered
        by_cases isType : registered = declaredType
        · rwa [isType]
        · have same : after.catalog.registry.get registered =
              before.catalog.registry.get registered := by
            rw [fields, if_neg isType]
          rw [isRegistered_of_get same] at isRegistered
          exact ready.named registered isRegistered
      · by_cases isType : entityType = declaredType
        · intro row member
          rw [fields, if_pos isType] at member
          rw [host, edges]
          rcases Registry.mem_rows_declare member with isNew | isOld
          · rw [isNew]
            exact traced isType.symm
          · exact ready.traces row isOld
        · exact ready.traces.congr (by rw [fields, if_neg isType]) edges (by rw [host])
  | committed kind record done => exact done.ready ready

end ShadowIndex.Application
