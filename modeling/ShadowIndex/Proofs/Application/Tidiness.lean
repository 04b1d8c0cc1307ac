import ShadowIndex.Proofs.Application.Alteration
import ShadowIndex.Proofs.Application.Freshness
import ShadowIndex.Proofs.Index.Confinement

/-!
Contract: what destroyed records leave behind, which is nothing.

Owns:
- `Turn`, an operation with the look-ups that fail while it runs, alone and in a row;
- `Application.IsClean`: entries and locks of live records only, and no lock that is held;
- every turn keeps an application tidy, whether or not its operation fails (`tidy_after`);
- from its start on, an application is clean after every turn of a run.

Does not own: what the entries say.
-/

set_option autoImplicit false

namespace ShadowIndex

/-! ## Turns -/

namespace Operation

/-- Whether an operation, if it creates a record, gives it an id of a certain kind. -/
def Names (ids : Id → Prop) (application : Application) : Operation → Prop
  | create recordType fields => ∃ id : Id, ids id ∧
      (application.host.assignId recordType ((fields.find? "id").getD .nothing)).1 = id.value
  | _ => True

/-- Whether an operation asks for a record of an owner to be created. -/
def Creates (owner : Ref) (application : Application) : Operation → Prop
  | create recordType fields => recordType = owner.entityType ∧
      (application.host.assignId recordType ((fields.find? "id").getD .nothing)).1 = owner.id.value
  | _ => False

end Operation

/-- An operation, and the look-ups of the service that fail while it runs: each by itself, by its
number in the turn and by what it asks. -/
structure Turn where
  operation : Operation
  faults : Faults

namespace Turn

/-- The service of an application that counts look-ups from here on. -/
def recounted (service : Service) : Service :=
  { service with index := { service.index with
    streams := { service.index.streams with lookUps := 0 } } }

/-- The application in which the operation of a turn starts. -/
def before (turn : Turn) (application : Application) : Application :=
  { application with
    host := { application.host with outage := .none }
    sight := Host.under turn.faults
    service := recounted application.service }

/-- The application after a turn, whether or not its operation failed. -/
def after (turn : Turn) (application : Application) : Application :=
  turn.operation.after (turn.before application)

/-- Whether the operation of a turn, if it creates a record, gives it an id of a certain kind. -/
def Names (ids : Id → Prop) (application : Application) (turn : Turn) : Prop :=
  turn.operation.Names ids (turn.before application)

/-- Whether the operation of a turn asks for a record of an owner to be created. -/
def Creates (owner : Ref) (application : Application) (turn : Turn) : Prop :=
  turn.operation.Creates owner (turn.before application)

/-- The application after turns in a row. -/
def afterAll (application : Application) (turns : List Turn) : Application :=
  Run.afterAll after application turns

/-- Whether something holds of every turn of a run, each in the state that it starts from. -/
def Along (property : Application → Turn → Prop) (application : Application) (turns : List Turn) :
    Prop :=
  Run.Along after property application turns

end Turn

namespace Application

/-- An application to which the service is subscribed before there is any record: nothing is
indexed and nothing is locked. -/
structure IsUnused (application : Application) : Prop where
  subscribed : application.listeners = [.service]
  unrecorded : application.host.records = .empty
  real : application.host.outage.phantoms = []
  aligned : Index.Aligned application.catalog application.host
  opened : application.store.requireOpen = .ok ()
  unindexed : application.store.entries = []
  unlocked : application.service.index.locks = .empty

/-- No entry and no lock but those of live records, and no lock that somebody holds. -/
structure IsClean (application : Application) : Prop where
  entries : ∀ entry ∈ application.store.entries, application.host.IsLive entry.owner
  locks : ∀ key, application.service.index.locks.contains key = true →
    ∃ owner, application.host.IsLive owner ∧ key = Index.lockKey owner
  idle : ∀ key, application.service.index.locks.holdersOf key = 0

/-- A clean application on whose service all turns can rely. -/
structure IsTidy (ids : Id → Prop) (application : Application) : Prop where
  subscribed : application.listeners = [.service]
  keyed : application.host.IsKeyed ids
  aligned : Index.Aligned application.catalog application.host
  confined : application.service.index.IsConfined ids application.host.IsLive
  idle : ∀ key, application.service.index.locks.holdersOf key = 0

variable {ids : Id → Prop} {application : Application}

theorem IsUnused.tidy (unused : application.IsUnused) :
    application.IsTidy application.store.Accepts where
  subscribed := unused.subscribed
  keyed := Host.isKeyed_of_unrecorded unused.unrecorded unused.real
  aligned := unused.aligned
  confined :=
    { serves := ⟨unused.opened, fun _ accepts => accepts⟩
      stored := by
        intro owner present
        rw [Store.find?_of_unindexed unused.unindexed] at present
        cases present
      locked := by
        intro key held
        rw [unused.unlocked] at held
        cases held }
  idle := by
    intro key
    rw [unused.unlocked]
    rfl

theorem IsTidy.clean (tidy : application.IsTidy ids) : application.IsClean where
  entries := fun entry member => tidy.confined.stored entry.owner (by
    rw [(Store.mem_entries_iff application.store entry).1 member]
    rfl)
  locks := tidy.confined.locked
  idle := tidy.idle

/-- A clean application keeps nothing of an owner that is not live. -/
theorem IsTidy.nothing_of_dead (tidy : application.IsTidy ids) {owner : Ref}
    (dead : ¬ application.host.IsLive owner) :
    application.store.find? owner = none ∧
      application.service.index.locks.contains (Index.lockKey owner) = false := by
  constructor
  · by_contra present
    exact dead (tidy.confined.stored owner (Option.isSome_iff_ne_none.2 present))
  · by_contra held
    obtain ⟨other, isLive, same⟩ := tidy.confined.locked _ (by simpa using held)
    obtain rfl := Index.lockKey_injective same
    exact dead isLive

/-! ## One turn -/

/-- Which look-ups fail does not matter to tidiness. -/
theorem IsTidy.before (tidy : application.IsTidy ids) (turn : Turn) :
    (turn.before application).IsTidy ids :=
  ⟨tidy.subscribed, ⟨tidy.keyed.keyed, rfl⟩, tidy.aligned,
    ⟨tidy.confined.serves, tidy.confined.stored, tidy.confined.locked⟩, tidy.idle⟩

section Work

variable (tidy : application.IsTidy ids)
include tidy

theorem tidy_onIndex {α : Type} {action : Catalog → Source → Action Index α}
    (keeps : Index.Keeps ids application.host.IsLive
      (action application.catalog application.source)) :
    ((Action.discarding (onIndex action)) application).2.IsTidy ids := by
  obtain ⟨confined, holders⟩ := keeps application.service.index tidy.confined
  exact ⟨tidy.subscribed, tidy.keyed, tidy.aligned, confined,
    fun key => (holders key).trans (tidy.idle key)⟩

/-- Whether it fails or is committed and told, an operation on one record keeps an application tidy.
Only a destruction takes the record from those that are live. -/
theorem tidy_of_alteration (reflects : ∀ host, (application.sight host).Reflects host)
    {kind : ChangeKind} {record : Ref} {after : Application}
    (alteration : Alteration kind record application after)
    (given : kind = .create → ids record.id) : after.IsTidy ids := by
  cases alteration with
  | refused counters =>
      exact ⟨tidy.subscribed, ⟨tidy.keyed.keyed, tidy.keyed.real⟩, tidy.aligned, tidy.confined,
        tidy.idle⟩
  | committed host note alters =>
      have known := alters.known tidy.keyed given
      have keyed := alters.isKeyed tidy.keyed known
      have aligned : Index.Aligned application.catalog host := by
        intro edge isEdge relation declared
        rw [alters.relations] at declared
        exact tidy.aligned edge isEdge relation declared
      have started := tidy.confined.record (.note note)
      have spared (owner : Ref) (isLive : application.host.IsLive owner) :
          host.IsLive owner ∨ owner = record := by
        by_cases isRecord : owner = record
        · exact Or.inr isRecord
        · exact Or.inl ((alters.isLive_iff_of_ne isRecord).2 isLive)
      by_cases isDestroy : kind = .destroy
      · subst isDestroy
        obtain ⟨confined, holders⟩ :=
          Index.onChange_destroy_inv keyed (reflects host) aligned known (started.mono spared)
            (tidy.idle _)
        exact ⟨tidy.subscribed, keyed, aligned, confined,
          fun key => (holders key).trans (tidy.idle key)⟩
      · have isLive := alters.isLive isDestroy
        have still (owner : Ref) (wasLive : application.host.IsLive owner) : host.IsLive owner :=
          (spared owner wasLive).elim id fun isRecord => isRecord ▸ isLive
        obtain ⟨confined, holders⟩ :=
          Index.keeps_onChange keyed (reflects host) aligned isDestroy isLive _ (started.mono still)
        exact ⟨tidy.subscribed, keyed, aligned, confined,
          fun key => (holders key).trans (tidy.idle key)⟩

theorem tidy_define {declaredType name : Value} {rule : FieldRule} {inFullText : Bool} :
    ((Operation.define declaredType name rule inFullText).after application).IsTidy ids := by
  cases declared : Service.declareIn application.catalog.registry declaredType name inFullText rule with
  | mk outcome registry =>
      rcases declareIn_inv declared with
        ⟨⟨failure, rfl⟩, -⟩ | ⟨text, fieldName, field, rfl, -, rfl, -, -⟩
      · rw [after_define_of_refused declared]
        exact ⟨tidy.subscribed, tidy.keyed, tidy.aligned, tidy.confined, tidy.idle⟩
      · rw [after_define_of_accepted declared]
        have marks : Index.Keeps ids application.host.IsLive (do
            let _ ← Action.each Index.note
              (Service.declarationNotes application.catalog.registry text fieldName field)
            Index.markType text : Action Index Unit) :=
          (Index.keeps_each fun note _ => Index.keeps_note note).bind fun _ _ =>
            Index.keeps_markType tidy.keyed
        obtain ⟨confined, holders⟩ := marks _ tidy.confined
        exact ⟨tidy.subscribed, tidy.keyed, tidy.aligned, confined,
          fun key => (holders key).trans (tidy.idle key)⟩

/-- Every turn keeps an application tidy, whichever of its look-ups fail. -/
theorem tidy_after {turn : Turn} (names : turn.Names ids application) :
    (turn.after application).IsTidy ids := by
  have ready := tidy.before turn
  have reflects (host : Host) : ((turn.before application).sight host).Reflects host :=
    host.under_reflects turn.faults
  obtain ⟨operation, faults⟩ := turn
  cases operation with
  | create recordType fields =>
      obtain ⟨id, known, assigned⟩ := names
      exact tidy_of_alteration ready reflects (alteration_of_create ready.subscribed assigned)
        fun _ => known
  | update recordType id fields =>
      exact tidy_of_alteration ready reflects
        (alteration_of_update ready.subscribed ready.keyed) (by simp)
  | destroy recordType id =>
      exact tidy_of_alteration ready reflects (alteration_of_destroy ready.subscribed) (by simp)
  | define declaredType name rule inFullText => exact tidy_define ready
  | search searchedType text scope =>
      exact tidy_onIndex ready (Index.keeps_search ready.keyed (reflects _) text scope)
  | reindex indexedType => exact tidy_onIndex ready (Index.keeps_reindexAll ready.keyed)
  | rebuild indexedType =>
      exact tidy_onIndex ready (Index.keeps_rebuildAll ready.keyed (reflects _))

end Work

/-! ## Departures -/

section Departure

variable {owner : Ref}

/-- After a destruction the record is not live, whether or not it was there. -/
theorem dead_of_destroy (subscribed : application.listeners = [.service]) :
    ¬ ((Operation.destroy owner.entityType owner.id).after application).host.IsLive owner := by
  rcases application.host.destroy_cases owner.entityType owner.id with
    ⟨removed, absent⟩ | ⟨record, host, removed, -, isGone⟩
  · rw [Operation.after, Operation.run, Action.discarding, destroy_of_absent removed]
    simp [Host.IsLive, absent]
  · rw [Operation.after, Operation.run, Action.discarding, destroy_of_present removed]
    have sameHost := @host_announce Bool { application with host := host } subscribed
    simp only [sameHost, Host.IsLive, Host.find?_destroy isGone, Option.isSome_none,
      Bool.false_eq_true, not_false_eq_true]

/-- Only the creation of its record makes an owner live. -/
theorem dead_of_alteration {kind : ChangeKind} {record : Ref} {after : Application}
    (alteration : Alteration kind record application after)
    (spares : kind = .create → owner ≠ record) (dead : ¬ application.host.IsLive owner) :
    ¬ after.host.IsLive owner := by
  cases alteration with
  | refused counters => exact dead
  | committed host note alters =>
      by_cases isRecord : owner = record
      · subst isRecord
        exact absurd (alters.existed fun isCreate => spares isCreate rfl) dead
      · exact mt (alters.isLive_iff_of_ne isRecord).1 dead

theorem dead_after (tidy : application.IsTidy ids) {operation : Operation}
    (names : operation.Names ids application) (spares : ¬ operation.Creates owner application)
    (dead : ¬ application.host.IsLive owner) :
    ¬ (operation.after application).host.IsLive owner := by
  cases operation with
  | create recordType fields =>
      obtain ⟨id, -, assigned⟩ := names
      apply dead_of_alteration (alteration_of_create tidy.subscribed assigned) _ dead
      rintro - rfl
      exact spares ⟨rfl, assigned⟩
  | update recordType id fields =>
      exact dead_of_alteration (alteration_of_update tidy.subscribed tidy.keyed) (by simp) dead
  | destroy recordType id =>
      exact dead_of_alteration (alteration_of_destroy tidy.subscribed) (by simp) dead
  | define declaredType name rule inFullText =>
      cases declared :
        Service.declareIn application.catalog.registry declaredType name inFullText rule with
      | mk outcome registry =>
          rcases declareIn_inv declared with
            ⟨⟨failure, rfl⟩, -⟩ | ⟨text, fieldName, field, rfl, -, rfl, -, -⟩
          · rw [after_define_of_refused declared]
            exact dead
          · rw [after_define_of_accepted declared]
            exact dead
  | search searchedType text scope => exact dead
  | reindex indexedType => exact dead
  | rebuild indexedType => exact dead

end Departure

/-! ## Runs -/

theorem keeps_tidy (ids : Id → Prop) : Run.Keeps Turn.after (Turn.Names ids) (IsTidy ids) :=
  fun _ _ tidy names => tidy_after tidy names

theorem tidy_afterAll (tidy : application.IsTidy ids) {turns : List Turn}
    (named : Turn.Along (Turn.Names ids) application turns) :
    (Turn.afterAll application turns).IsTidy ids :=
  (keeps_tidy ids).afterAll tidy named

theorem clean_along (tidy : application.IsTidy ids) {turns : List Turn}
    (named : Turn.Along (Turn.Names ids) application turns) :
    Turn.Along (fun state turn => (turn.after state).IsClean) application turns :=
  (keeps_tidy ids).along tidy named fun _ _ tidy names => (tidy_after tidy names).clean

/-- An owner stays dead until a record is created for it. -/
theorem dead_afterAll (tidy : application.IsTidy ids) {turns : List Turn}
    (named : Turn.Along (Turn.Names ids) application turns) {owner : Ref}
    (spared : Turn.Along (fun state turn => ¬ turn.Creates owner state) application turns)
    (dead : ¬ application.host.IsLive owner) :
    ¬ (Turn.afterAll application turns).host.IsLive owner := by
  have keeps : Run.Keeps Turn.after
      (fun state turn => turn.Names ids state ∧ ¬ turn.Creates owner state)
      fun state => state.IsTidy ids ∧ ¬ state.host.IsLive owner :=
    fun _ turn ⟨tidy, dead⟩ ⟨names, spares⟩ =>
      ⟨tidy_after tidy names, dead_after (tidy.before turn) names spares dead⟩
  exact (keeps.afterAll ⟨tidy, dead⟩ (Run.along_and.2 ⟨named, spared⟩)).2

/-- After every turn of a run, and whichever look-ups failed, there is no entry and no lock but
those of live records, and no lock is held. What is destroyed has neither until it is created
again. -/
theorem clean_throughout (unused : application.IsUnused) {turns : List Turn}
    (named : Turn.Along (Turn.Names application.store.Accepts) application turns) :
    Turn.Along (fun state turn => (turn.after state).IsClean) application turns ∧
      ∀ earlier destruction later (owner : Ref), turns = earlier ++ destruction :: later →
        destruction.operation = .destroy owner.entityType owner.id →
        Turn.Along (fun state turn => ¬ turn.Creates owner state)
          (Turn.afterAll application (earlier ++ [destruction])) later →
        (Turn.afterAll application turns).store.find? owner = none ∧
          (Turn.afterAll application turns).service.index.locks.contains
            (Index.lockKey owner) = false := by
  refine ⟨clean_along unused.tidy named, ?_⟩
  intro earlier destruction later owner isRun isDestroy spared
  rw [isRun, List.append_cons] at named ⊢
  obtain ⟨namedUntil, namedLater⟩ := Run.along_append.1 named
  have ready := tidy_afterAll unused.tidy (Run.along_append.1 namedUntil).1
  have tidy := tidy_afterAll unused.tidy namedUntil
  have dead : ¬ (Turn.afterAll application (earlier ++ [destruction])).host.IsLive owner := by
    rw [Turn.afterAll, Run.afterAll_append]
    show ¬ (destruction.operation.after _).host.IsLive owner
    rw [isDestroy]
    exact dead_of_destroy (ready.before destruction).subscribed
  have last := tidy_afterAll tidy namedLater
  rw [Turn.afterAll, Run.afterAll_append]
  exact last.nothing_of_dead (dead_afterAll tidy namedLater spared dead)

/-! ## A wiki -/

/-- Pages with a parent, whose children depend on them and are built anew at once. -/
def wiki : Application where
  host := (Host.empty.relate "page" "children" (.hasMany "page" "parent_id")).relate "page" "parent"
    (.belongsTo "parent" "page" none)
  sight := Host.source
  service := ⟨⟨{ (default : Settings) with eagerReindex := true }, .fresh true,
    .ofEdges [⟨"page", "page", "children"⟩]⟩, default⟩
  listeners := [.service]
  heard := []

/-- The look-up with a number fails, and those before and after it work. -/
def hiccup (number : Nat) : Faults := fun before _ =>
  if before = number then some .hostUnavailable else none

/-- One page cannot be fetched, and the children of another cannot be resolved. -/
def unreachable : Faults
  | _, .fetch "page" (.int 3) => some .hostUnavailable
  | _, .resolve "page" (.int 1) "children" => some .relationUnavailable
  | _, _ => none

/-- A page is found through the title of its parent, where a look-up fails and succeeds when it is
tried again. The parent is destroyed, which its child is told of and cannot be built anew; then the
child loses it while nothing can be looked up, and pages are derived again. -/
def churn : List Turn :=
  [⟨.define (.str "page") (.str "trail") (.extractor (.association "parent" ["title"])) true,
      .none⟩,
    ⟨.create "page" (.ofList [("id", .int 1), ("title", .str "needle")]), hiccup 0⟩,
    ⟨.create "page" (.ofList [("id", .int 2), ("parent_id", .int 1)]), hiccup 2⟩,
    ⟨.create "page" (.ofList [("id", .int 3), ("parent_id", .int 2)]), unreachable⟩,
    ⟨.search "page" (some "needle") .all, hiccup 4⟩,
    ⟨.destroy "page" (.int 2), unreachable⟩,
    ⟨.update "page" (.int 3) (.ofList [("parent_id", .nothing)]),
      fun _ _ => some .hostUnavailable⟩,
    ⟨.rebuild "page", unreachable⟩]

theorem wiki_unused : wiki.IsUnused where
  subscribed := rfl
  unrecorded := rfl
  real := rfl
  aligned := by
    intro edge isEdge relation declared
    obtain rfl := List.mem_singleton.1 ((DependencyGraph.mem_edges_ofEdges_iff _ _).1 isEdge)
    have target : (wiki.host.relations.find? ("page", "children")).map Relation.target =
        some "page" := by decide +kernel
    rw [declared] at target
    exact Option.some.inj target
  opened := rfl
  unindexed := rfl
  unlocked := rfl

theorem churn_named : Turn.Along (Turn.Names wiki.store.Accepts) wiki churn :=
  ⟨trivial, ⟨.int 1, trivial, rfl⟩, ⟨.int 2, trivial, rfl⟩, ⟨.int 3, trivial, rfl⟩, trivial,
    trivial, trivial, trivial, trivial⟩

/-- The destroyed page had an entry, and has none in the end. -/
theorem clean_throughout_churn :
    Turn.Along (fun state turn => (turn.after state).IsClean) wiki churn ∧
      ((Turn.afterAll wiki (churn.take 5)).store.find? ⟨"page", .int 2⟩).map
        (fun entry => entry.content.fullText) = some "needle" ∧
      (Turn.afterAll wiki churn).store.find? ⟨"page", .int 2⟩ = none ∧
      (Turn.afterAll wiki churn).service.index.locks.contains
        (Index.lockKey ⟨"page", .int 2⟩) = false := by
  obtain ⟨clean, nothing⟩ := clean_throughout wiki_unused churn_named
  exact ⟨clean, by decide +kernel,
    nothing (churn.take 5) _ (churn.drop 6) ⟨"page", .int 2⟩ rfl rfl ⟨id, id, trivial⟩⟩

end Application

end ShadowIndex
