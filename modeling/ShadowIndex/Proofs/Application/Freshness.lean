import ShadowIndex.Proofs.Application.Effect

/-!
Contract: when the entries that look fresh are true.

Owns:
- `Application.Truthful`: an entry of a type that is not stale is what a build of its record gives;
- `Application.Strands`, the one way in which an operation breaks this: an update makes a record leave
  an owner whose texts were read from it, and the owner is not told;
- a run is truthful throughout exactly if none of its operations strands an owner.

Does not own: which updates strand an owner.
-/

set_option autoImplicit false

namespace ShadowIndex.Application

/-- No entry of a type is taken for fresh but those that a build of their record gives now. -/
def Truthful (entityType : String) (application : Application) : Prop :=
  ∀ owner : Ref, owner.entityType = entityType →
    application.catalog.Sound application.host owner (application.store.find? owner)

/-- A record leaves an owner that is not told of it, although the owner has a fresh entry and its
texts change. -/
structure Strands (before after : Application) (record owner : Ref) : Prop where
  leaves : before.catalog.Leaves before.host after.host record owner
  untold : ¬ Index.Told before.catalog after.host .update record.entityType record.id owner
  indexed : (before.store.find? owner).any (fun entry => !entry.content.stale) = true
  differs : before.catalog.live after.host owner ≠ before.catalog.live before.host owner

/-- Whether an operation strands no owner of a type. -/
def KeepsAll (entityType : String) (application : Application) (operation : Operation) : Prop :=
  ∀ record owner : Ref, owner.entityType = entityType →
    ¬ Strands application (operation.after application) record owner

/-- An application that starts: the service sees the host as it is, all relations and dependencies
are declared, there are no records yet, and no entry looks fresh. -/
structure Begins (ids : Id → Prop) (entityType : String) (application : Application) : Prop where
  subscribed : application.listeners = [.service]
  sees : application.sight = Host.source
  serving : application.host.outage = .none
  unrecorded : application.host.records = .empty
  undestroyed : application.host.destroyed = .empty
  targeted : ∀ name relation, application.host.relations.find? name = some relation →
    relation.target ≠ ""
  holds : application.store.Holds ids
  unindexed : ∀ owner entry, application.store.find? owner = some entry → entry.content.stale = true
  named : ∀ registered, application.catalog.registry.isRegistered registered = true →
    registered ≠ ""
  traces : application.catalog.Traces application.host entityType

variable {ids : Id → Prop} {entityType : String} {before after application : Application}

theorem Begins.ready (begins : application.Begins ids entityType) :
    application.IsReady ids entityType where
  subscribed := begins.subscribed
  sees := begins.sees
  orderly :=
    { serving := begins.serving
      named := begins.targeted
      keyed := by
        intro recordType key record found
        rw [begins.unrecorded, Table.find?_empty] at found
        cases found
      referring := by
        intro recordType key record found
        rw [begins.unrecorded, begins.undestroyed, Table.find?_empty] at found
        rcases found with impossible | impossible <;> cases impossible
      steady := by
        intro name record found
        rw [begins.unrecorded, Table.find?_empty] at found
        cases found }
  holds := begins.holds
  named := begins.named
  traces := begins.traces

theorem Begins.truthful (begins : application.Begins ids entityType) :
    application.Truthful entityType := by
  intro owner _ entry held fresh
  rw [begins.unindexed owner entry held] at fresh
  cases fresh

/-! ## One operation -/

/-- In a ready application, an entry that looks fresh is true exactly if it is the live one. -/
theorem sound_iff_live (ready : application.IsReady ids entityType) {owner : Ref}
    (isType : owner.entityType = entityType) {entry : Entry}
    (held : application.store.find? owner = some entry) (fresh : entry.content.stale = false) :
    application.catalog.Sound application.host owner (application.store.find? owner) ↔
      application.catalog.live application.host owner = .ok (some entry) := by
  subst isType
  have steady := Catalog.isSteady_of_traces ready.traces ready.orderly
  rw [← Catalog.builds_iff steady owner.id entry, held]
  constructor
  · intro sound
    exact sound entry rfl fresh
  · intro builds other same _
    cases same
    exact builds

theorem Effect.leaves_inv (effect : Effect ids entityType before after) {record owner : Ref}
    (leaves : before.catalog.Leaves before.host after.host record owner) :
    Committed ids .update record before after := by
  cases effect with
  | maintained counters host fields edges listeners sight upkeep =>
      apply absurd leaves
      apply Catalog.not_leaves_of_fieldOf
      intro field
      rw [host]
      rfl
  | declared declaredType name field named traced host fields edges listeners sight flagged =>
      apply absurd leaves
      apply Catalog.not_leaves_of_fieldOf
      intro field
      rw [host]
  | committed kind changed done =>
      have isChanged : record = changed := by
        by_contra different
        exact Catalog.not_leaves_of_fieldOf
          (fun field => done.commits.toChangesOnly.fieldOf_of_ne different field) leaves
      subst isChanged
      have isUpdate := Index.kind_of_leaves done.commits leaves
      subst isUpdate
      exact done

/-- An owner that an operation strands is left with an entry that is not true. -/
theorem Effect.not_truthful (effect : Effect ids entityType before after)
    (ready : before.IsReady ids entityType) (truthful : before.Truthful entityType)
    {record owner : Ref} (isType : owner.entityType = entityType)
    (strands : Strands before after record owner) : ¬ after.Truthful entityType := by
  intro truthfulAfter
  have done := effect.leaves_inv strands.leaves
  obtain ⟨entry, held, fresh⟩ := (Option.any_eq_true _ _).1 strands.indexed
  have isFresh : entry.content.stale = false := by simpa using fresh
  have heldAfter : after.store.find? owner = some entry := by
    rw [done.notifies.frame strands.untold, held]
  have wasLive := (sound_iff_live ready isType held isFresh).1 (truthful owner isType)
  have isLive := (sound_iff_live (effect.ready ready) isType heldAfter isFresh).1
    (truthfulAfter owner isType)
  rw [done.catalog] at isLive
  exact strands.differs (isLive.trans wasLive.symm)

/-- The entry of an owner that an operation does not strand stays true. -/
theorem Effect.sound (effect : Effect ids entityType before after)
    (ready : before.IsReady ids entityType) {owner : Ref} (isType : owner.entityType = entityType)
    (sound : before.catalog.Sound before.host owner (before.store.find? owner))
    (stays : ∀ record, ¬ Strands before after record owner) :
    after.catalog.Sound after.host owner (after.store.find? owner) := by
  have traces : before.catalog.Traces before.host owner.entityType := by
    rw [isType]
    exact ready.traces
  cases effect with
  | maintained counters host fields edges listeners sight upkeep =>
      apply Index.sound_of_liveEntry_eq _ (upkeep.sound sound)
      intro entry _
      rw [host]
      exact Catalog.liveEntry_congr traces (fields _) rfl fun _ _ _ _ => rfl
  | declared declaredType name field named traced host fields edges listeners sight flagged =>
      rw [flagged.found, host]
      by_cases isDeclared : owner.entityType = declaredType
      · -- Every entry of the type is flagged.
        simp only [isDeclared, if_true]
        intro entry isHeld fresh
        obtain ⟨former, -, rfl⟩ := Option.map_eq_some_iff.1 isHeld
        cases fresh
      · simp only [isDeclared, if_false]
        apply Index.sound_of_liveEntry_eq _ sound
        intro entry _
        exact Catalog.liveEntry_congr traces (by rw [fields, if_neg isDeclared]) rfl
          fun _ _ _ _ => rfl
  | committed kind record done =>
      rw [done.catalog]
      by_cases spared : Index.Told before.catalog after.host kind record.entityType record.id owner ∨
          ¬ before.catalog.Leaves before.host after.host record owner
      · exact Index.sound_of_commit done.commits ready.orderly done.orderly traces rfl done.notifies
          sound spared
      · -- The record left the owner untold, so its entry is not fresh, or is still the live one.
        have untold := fun told => spared (Or.inl told)
        have leaves := Classical.not_not.1 fun stays => spared (Or.inr stays)
        have isUpdate := Index.kind_of_leaves done.commits leaves
        subst isUpdate
        rw [done.notifies.frame untold]
        intro entry held fresh
        have indexed : (before.store.find? owner).any (fun entry => !entry.content.stale) = true := by
          simp [held, fresh]
        have sameLive : before.catalog.live after.host owner =
            before.catalog.live before.host owner := by
          by_contra differs
          exact stays record ⟨leaves, untold, indexed, differs⟩
        have wasLive := (sound_iff_live ready isType held fresh).1 sound
        have steady : before.catalog.IsSteady after.host owner.entityType := by
          rw [isType, ← done.catalog]
          exact Catalog.isSteady_of_traces (done.ready ready).traces done.orderly
        exact (Catalog.builds_iff steady owner.id entry).2 (sameLive.trans wasLive)

/-- An operation keeps an application truthful exactly if it strands no owner. -/
theorem truthful_after_iff (ready : application.IsReady ids entityType)
    (truthful : application.Truthful entityType) {operation : Operation}
    (fits : operation.Fits ids entityType application) (goesOn : operation.GoesOn application) :
    (operation.after application).Truthful entityType ↔
      KeepsAll entityType application operation := by
  have effect := effect_of_run ready fits goesOn
  constructor
  · intro truthfulAfter record owner isType strands
    exact effect.not_truthful ready truthful isType strands truthfulAfter
  · intro keeps owner isType
    exact effect.sound ready isType (truthful owner isType) fun record =>
      keeps record owner isType

/-! ## Runs -/

/-- By induction on the operations: readiness is kept by each, and truth by those that strand no
owner. -/
theorem truthful_along_iff (ready : application.IsReady ids entityType)
    (truthful : application.Truthful entityType) {operations : List Operation}
    (allowed : Operation.Along (Operation.Allowed ids entityType) application operations) :
    Operation.Along (fun state operation => (operation.after state).Truthful entityType)
        application operations ↔
      Operation.Along (KeepsAll entityType) application operations := by
  induction operations generalizing application with
  | nil => exact Iff.rfl
  | cons operation rest inductionHypothesis =>
      obtain ⟨⟨fits, goesOn⟩, later⟩ := allowed
      have step := truthful_after_iff ready truthful fits goesOn
      have readyAfter := (effect_of_run ready fits goesOn).ready ready
      constructor
      · rintro ⟨now, others⟩
        exact ⟨step.1 now, (inductionHypothesis readyAfter now later).1 others⟩
      · rintro ⟨keeps, others⟩
        have now := step.2 keeps
        exact ⟨now, (inductionHypothesis readyAfter now later).2 others⟩

theorem ready_afterAll (ready : application.IsReady ids entityType) {operations : List Operation}
    (allowed : Operation.Along (Operation.Allowed ids entityType) application operations) :
    (Operation.afterAll application operations).IsReady ids entityType := by
  have keeps : Run.Keeps Operation.after (Operation.Allowed ids entityType)
      (IsReady ids entityType) :=
    fun _ _ ready allowed => (effect_of_run ready allowed.1 allowed.2).ready ready
  exact keeps.afterAll ready allowed

/-! ## A blog -/

/-- Users that have posts, with all declared but the fields. -/
def blog : Application where
  host := (Host.empty.relate "user" "posts" ⟨"post", "user_id", .hasMany⟩).relate "post" "user"
    ⟨"user", "user_id", .belongsTo⟩
  sight := Host.source
  service := ⟨⟨default, .fresh true, .ofEdges [⟨"user", "post", "user"⟩]⟩, default⟩
  listeners := [.service]
  heard := []

/-- A post is indexed with the first of two users. -/
def settlement : List Operation :=
  [.define (.str "user") (.str "posts") (.extractor (.association "posts" ["title"])) true,
    .create "user" (.ofList [("id", .int 1)]),
    .create "user" (.ofList [("id", .int 2)]),
    .create "post" (.ofList [("id", .int 7), ("title", .str "needle"), ("user_id", .int 1)]),
    .reindex "user"]

/-- The post moves to the second user. -/
def move : Operation := .update "post" (.int 7) (.ofList [("user_id", .int 2)])

theorem blog_begins : blog.Begins (fun _ => True) "user" where
  subscribed := rfl
  sees := rfl
  serving := rfl
  unrecorded := rfl
  undestroyed := rfl
  targeted := by
    intro name relation declared
    have member := (Table.find?_eq_some_iff _ _ _).1 declared
    have listed : blog.host.relations.rows = [(("user", "posts"), ⟨"post", "user_id", .hasMany⟩),
        (("post", "user"), ⟨"user", "user_id", .belongsTo⟩)] := by decide +kernel
    rw [listed] at member
    rcases List.mem_pair.1 member with isPosts | isUser
    · cases isPosts
      decide
    · cases isUser
      decide
  holds := ⟨⟨rfl, fun _ _ => trivial⟩, fun _ _ => trivial⟩
  unindexed := by
    intro owner entry impossible
    cases impossible
  named := by
    intro registered impossible
    cases impossible
  traces := by
    intro row impossible
    cases impossible

theorem settlement_allowed :
    Operation.Along (Operation.Allowed (fun _ => True) "user") blog settlement := by
  have isReference (id : Id) : id.value.IsReference := Or.inr ⟨id, rfl⟩
  have goesOn {operation : Operation} {state : Application}
      (done : (operation.run state).1.isOk = true) : operation.GoesOn state :=
    Operation.goesOn_of_returned (Operation.eq_ok_of_isOk done)
  refine ⟨⟨fun _ => ?_, goesOn (by decide +kernel)⟩,
    ⟨⟨Host.takes_of_references ?_, .int 1, trivial, rfl⟩, goesOn (by decide +kernel)⟩,
    ⟨⟨Host.takes_of_references ?_, .int 2, trivial, rfl⟩, goesOn (by decide +kernel)⟩,
    ⟨⟨Host.takes_of_references ?_, .int 7, trivial, rfl⟩, goesOn (by decide +kernel)⟩,
    ⟨trivial, goesOn (by decide +kernel)⟩, trivial⟩
  · exact ⟨⟨"post", "user_id", .hasMany⟩, "user", rfl, rfl, by decide⟩
  · simp only [List.mem_cons, List.not_mem_nil, or_false, forall_eq]
    exact isReference (.int 1)
  · simp only [List.mem_cons, List.not_mem_nil, or_false, forall_eq]
    exact isReference (.int 2)
  · simp only [List.mem_cons, List.not_mem_nil, or_false, forall_eq_or_imp, forall_eq]
    exact ⟨isReference (.int 7), isReference (.str "needle"), isReference (.int 1)⟩

theorem move_fits : move.Fits (fun _ => True) "user" (Operation.afterAll blog settlement) := by
  apply Host.takes_of_references
  simp only [List.mem_cons, List.not_mem_nil, or_false, forall_eq]
  exact Or.inr ⟨.int 2, rfl⟩

theorem move_returned : (move.run (Operation.afterAll blog settlement)).1 = .ok () :=
  Operation.eq_ok_of_isOk (by decide +kernel)

theorem settlement_move_allowed :
    Operation.Along (Operation.Allowed (fun _ => True) "user") blog (settlement ++ [move]) :=
  Run.along_concat.2
    ⟨settlement_allowed, move_fits, Operation.goesOn_of_returned move_returned⟩

/-- The move leaves the title of the post in a fresh entry of the first user. -/
theorem stored_after_move :
    ((move.after (Operation.afterAll blog settlement)).store.find? ⟨"user", .int 1⟩).map
      (fun entry => (entry.content.stale, entry.content.fullText)) = some (false, "needle") := by
  decide +kernel

theorem live_after_move :
    ((move.after (Operation.afterAll blog settlement)).catalog.live
      (move.after (Operation.afterAll blog settlement)).host ⟨"user", .int 1⟩).toOption.join.map
        (fun entry => entry.content.fullText) = some "" := by
  decide +kernel

theorem unsound_after_move :
    ¬ (move.after (Operation.afterAll blog settlement)).catalog.Sound
      (move.after (Operation.afterAll blog settlement)).host ⟨"user", .int 1⟩
      ((move.after (Operation.afterAll blog settlement)).store.find? ⟨"user", .int 1⟩) := by
  intro sound
  have ready := ready_afterAll blog_begins.ready settlement_allowed
  have readyAfter := (effect_of_run ready move_fits
    (Operation.goesOn_of_returned move_returned)).ready ready
  obtain ⟨entry, held, isEntry⟩ := Option.map_eq_some_iff.1 stored_after_move
  obtain ⟨fresh, isText⟩ := Prod.mk.inj isEntry
  have live := live_after_move
  rw [(sound_iff_live readyAfter rfl held fresh).1 sound] at live
  have noText : entry.content.fullText = "" := Option.some.inj live
  rw [isText] at noText
  exact absurd noText (by decide)

/-- From its start on, an application is truthful throughout a run exactly if no operation strands an
owner: searches, batches, declarations, creations and destructions never do. -/
theorem truthful_throughout_iff (begins : application.Begins ids entityType)
    {operations : List Operation}
    (allowed : Operation.Along (Operation.Allowed ids entityType) application operations) :
    Operation.Along (fun state operation => (operation.after state).Truthful entityType)
        application operations ↔
      Operation.Along (KeepsAll entityType) application operations :=
  truthful_along_iff begins.ready begins.truthful allowed

theorem truthful_throughout_iff_blog :
    Operation.Along (fun state operation => (operation.after state).Truthful "user")
        blog (settlement ++ [move]) ↔
      Operation.Along (KeepsAll "user") blog (settlement ++ [move]) :=
  truthful_throughout_iff blog_begins settlement_move_allowed

/-- A run that is not truthful: when a post moves, the entry of its former user stays fresh and keeps
its title. -/
theorem blog_not_truthful :
    blog.Begins (fun _ => True) "user" ∧
      Operation.Along (Operation.Allowed (fun _ => True) "user") blog (settlement ++ [move]) ∧
      ¬ Operation.Along (fun state operation => (operation.after state).Truthful "user")
        blog (settlement ++ [move]) := by
  refine ⟨blog_begins, settlement_move_allowed, ?_⟩
  intro truthful
  have last := (Run.along_concat.1 truthful).2
  exact unsound_after_move (last ⟨"user", .int 1⟩ rfl)

end ShadowIndex.Application
