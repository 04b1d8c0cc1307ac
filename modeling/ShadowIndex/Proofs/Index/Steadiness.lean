import ShadowIndex.Index.Change

/-!
Contract: what the index asks of a host that gives the same until it is changed.

Owns:
- extraction from steady look-ups is extraction from what they give (`Registry.build_steady`);
- what keeps a host from giving a record or its associates does not end a program
  (`Host.survives_snapshot`, `Host.survives_resolve`);
- builds and cascades in terms of what the host gives (`Catalog.liveEntry_source`,
  `Index.cascadeAlong_of_resolved`, `Index.cascadeAlong_of_unresolved`).

Does not own: look-ups that need not give the same each time.
-/

set_option autoImplicit false

namespace ShadowIndex

variable {σ : Type}

/-! ## Steady look-ups -/

theorem Action.lift_bind {α β : Type} (outcome : Except Failure α) (next : α → Except Failure β) :
    (Action.lift (outcome >>= next) : Action σ β) =
      Action.lift outcome >>= fun value => Action.lift (next value) := by
  cases outcome <;> rfl

theorem Action.lift_mapM {α β : Type} (next : α → Except Failure β) (items : List α) :
    (items.mapM fun item => (Action.lift (next item) : Action σ β)) =
      Action.lift (items.mapM next) := by
  induction items with
  | nil => rfl
  | cons item rest inductionHypothesis =>
      simp only [List.mapM_cons, inductionHypothesis, Action.lift_bind]
      rfl

theorem Action.observing_lift {α : Type} (outcome : Except Failure α) :
    observing (Action.lift outcome : Action σ α) = pure outcome := by
  cases outcome <;> rfl

theorem observing_outcome {α : Type} (outcome : Except Failure α) :
    observing outcome = .ok outcome := by
  cases outcome <;> rfl

/-- A view as actions see it. -/
def RecordReader.steady {ρ : Type} (σ : Type) (view : RecordView ρ) :
    RecordReader (Action σ) ρ where
  snapshot := view.snapshot
  associated record name := Action.lift (view.associated record name)

namespace LookUps

variable (lookUps : LookUps (Except Failure))

theorem snapshot_steady (entityType : String) (id : Value) :
    lookUps.steady.snapshot entityType id = Action.lift (lookUps.snapshot entityType id) := by
  unfold snapshot
  rw [Action.lift_bind]
  congr 1
  funext fields?
  cases fields? with
  | none => rfl
  | some fields => cases checked : Host.checkedRef entityType id <;> rfl

theorem associated_steady (snapshot : Snapshot) (name : String) :
    lookUps.steady.associated snapshot name = Action.lift (lookUps.associated snapshot name) := by
  unfold associated
  rw [Action.lift_bind]
  congr 1
  funext refs
  rw [Action.lift_bind]
  simp only [snapshot_steady, Action.lift_mapM]
  rfl

theorem view_steady : lookUps.steady.view = lookUps.view.steady Streams := by
  unfold view RecordReader.steady
  congr 1
  funext snapshot name
  exact lookUps.associated_steady snapshot name

end LookUps

/-! ## Extraction -/

section Extraction

variable {ρ : Type} (view : RecordView ρ) (record : ρ)

/-- By induction on the way to read, of which each look-up gives the same outcome. -/
theorem Reading.run_steady (way : Reading) (others : List ρ) :
    way.run (view.steady σ) record others = Action.lift (way.run view record others) := by
  induction way generalizing others with
  | done outcome => rfl
  | look seen name next inductionHypothesis =>
      simp only [Reading.run, RecordReader.steady, Action.observing_lift, observing_outcome,
        pure_bind]
      exact inductionHypothesis _ _

theorem Extractor.run_steady (rule : Extractor) :
    rule.run (view.steady σ) record = Action.lift (rule.run view record) := by
  cases rule with
  | own read => rfl
  | association name names =>
      unfold Extractor.run
      rw [Action.lift_bind]
      rfl
  | reading read => exact Reading.run_steady view record _ _

theorem Registry.extractValue_steady (registry : Registry) (field : Field) :
    registry.extractValue (view.steady σ) record field =
      Action.lift (registry.extractValue view record field) := by
  unfold Registry.extractValue
  split
  · exact Extractor.run_steady view record _
  · split
    · exact Extractor.run_steady view record _
    · rfl

theorem Registry.build_steady (registry : Registry) (entityType : String) :
    registry.build (view.steady Streams) entityType record =
      registry.build view entityType record := by
  have sameRow : registry.extractNamed (view.steady Streams) record =
      registry.extractNamed view record := by
    funext row
    rw [Registry.extractNamed, Registry.extract, Registry.extractValue_steady]
    rfl
  rw [Registry.build, sameRow, Registry.build]

end Extraction

/-! ## Failures of a host -/

/-- What may fail, but not so that it ends a program. -/
def Survives {α : Type} (outcome : Except Failure α) : Prop :=
  ∀ failure, outcome = .error failure → failure.isEnding = false

namespace Survives

variable {α β : Type}

theorem ok {value : α} : Survives (.ok value) := by
  rintro failure ⟨⟩

theorem bind {outcome : Except Failure α} {next : α → Except Failure β}
    (first : Survives outcome) (rest : ∀ value, Survives (next value)) :
    Survives (outcome >>= next) := by
  intro failure failed
  cases outcome with
  | error cause =>
      cases failed
      exact first failure rfl
  | ok value => exact rest value failure failed

theorem mapM {next : α → Except Failure β} (each : ∀ item, Survives (next item))
    (items : List α) : Survives (items.mapM next) := by
  induction items with
  | nil => exact ok
  | cons item rest inductionHypothesis =>
      rw [List.mapM_cons]
      exact (each item).bind fun value => inductionHypothesis.bind fun values => ok

theorem key (item : Value) : Survives item.key := by
  intro failure refused
  unfold Value.key at refused
  split at refused
  · cases refused
  · cases refused
  · cases refused
  · split at refused <;> cases refused
  · split at refused <;> cases refused
    rfl

theorem checkedRef (entityType : String) (id : Value) :
    Survives (Host.checkedRef entityType id) := by
  intro failure refused
  unfold Host.checkedRef at refused
  cases checked : Ref.check (.str entityType) id <;> rw [checked] at refused <;> cases refused
  rfl

end Survives

namespace Host

variable (host : Host)

theorem survives_snapshot (entityType : String) (id : Value) :
    Survives (host.snapshot entityType id) := by
  refine Survives.bind ?_ fun fields? => ?_
  · show Survives (host.fetch entityType id)
    unfold fetch
    by_cases blocked : host.outage.blocks entityType id = true
    · rintro failure failed
      simp only [blocked, if_true] at failed
      cases failed
      rfl
    · simp only [blocked]
      exact (Survives.key id).bind fun key => .ok
  · cases fields? with
    | none => exact .ok
    | some fields => exact (Survives.checkedRef entityType id).bind fun ref => .ok

theorem survives_resolve (entityType : String) (id : Value) (name : String) :
    Survives (host.resolve entityType id name) := by
  unfold resolve
  split
  · rintro failure ⟨⟩
    rfl
  · split
    · exact .ok
    · split
      · unfold resolveOne
        refine (Survives.key id).bind fun key => ?_
        simp only
        split
        · exact .ok
        · refine (Survives.key _).bind fun targetKey => ?_
          split
          · exact (Survives.checkedRef _ _).bind fun ref => .ok
          · exact .ok
      · exact Survives.mapM (fun record : HostRecord => Survives.checkedRef _ record.id) _

end Host

/-! ## The index of a host -/

section Index

variable (catalog : Catalog) (host : Host) (entityType : String) (id : Value)

theorem Host.snapshot_source :
    host.source.snapshot entityType id = Action.lift (host.snapshot entityType id) :=
  host.lookUps.snapshot_steady entityType id

theorem Catalog.liveEntry_source (streams : Streams) :
    catalog.liveEntry host.source entityType id streams =
      match host.snapshot entityType id with
      | .error cause => (.error (.reindex entityType id .fetch cause), streams)
      | .ok none => (.ok none, streams)
      | .ok (some snapshot) =>
          match catalog.registry.build host.view entityType snapshot streams with
          | (.error cause, after) =>
              (.error (rebuildFailure entityType id .extraction cause), after)
          | (.ok texts, after) => (.ok (some ⟨snapshot.ref, .ofTexts texts⟩), after) := by
  have sameView : host.source.view = host.view.steady Streams := host.lookUps.view_steady
  have survives := host.survives_snapshot entityType id
  simp only [liveEntry, host.snapshot_source, sameView, Registry.build_steady]
  cases looked : host.snapshot entityType id with
  | error cause =>
      simp [Action.bind_apply, Action.attempt, Action.lift, Action.fail, rebuildFailure,
        survives cause looked]
  | ok snapshot? =>
      cases snapshot? with
      | none => rfl
      | some snapshot =>
          simp only [Action.bind_apply, Action.attempt, Action.lift]
          cases catalog.registry.build host.view entityType snapshot streams with
          | mk outcome after => cases outcome <;> rfl

namespace Index

@[simp] theorem reading_candidates_source (scope : Scope) :
    reading (host.source.candidates entityType scope) =
      Action.lift (host.candidates entityType scope) := rfl

theorem reading_resolve_source (relation : String) :
    reading (host.source.resolve entityType id relation) =
      Action.lift (host.resolve entityType id relation) := rfl

/-! ## Cascades -/

variable {catalog host entityType id} {edge : Dependency}

theorem cascadeAlong_of_unregistered
    (unregistered : catalog.registry.isRegistered edge.dependent = false) :
    cascadeAlong catalog host.source entityType id edge =
      note (Note.dependencyIgnored edge.dependent entityType) := by
  unfold cascadeAlong
  simp only [unregistered, Bool.not_false, if_true]

/-- A cascade along a dependency that is resolved tells the dependents one after the other. -/
theorem cascadeAlong_of_resolved
    (registered : catalog.registry.isRegistered edge.dependent = true) {dependents : List Ref}
    (resolved : host.resolve entityType id edge.relation = .ok dependents) :
    cascadeAlong catalog host.source entityType id edge = (do
      let _ ← Action.each
        (fun (dependent : Ref) =>
          invalidate catalog host.source "dependency" edge.dependent dependent.id.value)
        dependents
      if !dependents.isEmpty then
        note (Note.dependentsMarked entityType id dependents.length edge.dependent)) := by
  unfold cascadeAlong
  simp only [registered, Bool.not_true, Bool.false_eq_true, if_false, reading_resolve_source,
    resolved]
  rfl

theorem cascadeAlong_of_unresolved
    (registered : catalog.registry.isRegistered edge.dependent = true) {cause : Failure}
    (unresolved : host.resolve entityType id edge.relation = .error cause) :
    cascadeAlong catalog host.source entityType id edge =
      Action.fail (.association entityType id edge.relation cause) := by
  have survives := host.survives_resolve entityType id edge.relation cause unresolved
  unfold cascadeAlong
  simp only [registered, Bool.not_true, Bool.false_eq_true, if_false, reading_resolve_source,
    unresolved]
  funext index
  simp [Action.bind_apply, Action.attempt, Action.lift, survives]

end Index

end Index

end ShadowIndex
