import ShadowIndex.Proofs.Index.Notification
import ShadowIndex.Proofs.Index.Reach

/-!
Contract: what a notification leaves when a relation cannot be resolved.

Owns:
- `Index.breakAlong`, the failure of a dependency whose relation cannot be resolved;
- `Index.followed` and `Index.interruption`, the dependencies before the first such failure, and
  that failure;
- `Index.Halts`: the changed record and the dependents along followed dependencies lose their fresh
  entries, all others keep them, and the failure is the answer (`onChange_halts`).

Does not own: builds at once, right after a change.
-/

set_option autoImplicit false

namespace ShadowIndex

/-- An owner has an entry that searches take as it is. -/
def Store.IsFresh (store : Store) (owner : Ref) : Prop :=
  ∃ entry, store.find? owner = some entry ∧ entry.content.stale = false

namespace Index

/-! ## Where a notification breaks off -/

/-- The failure of a dependency whose relation cannot be resolved. Without searchable fields of the
dependent type, there is nothing to resolve. -/
def breakAlong (catalog : Catalog) (host : Host) (entityType : String) (id : Id)
    (edge : Dependency) : Option Failure :=
  if catalog.registry.isRegistered edge.dependent then
    match host.resolve entityType id.value edge.relation with
    | .ok _ => none
    | .error cause => some (.association entityType id.value edge.relation cause)
  else none

/-- The dependencies before the first one that fails. -/
def unbroken (catalog : Catalog) (host : Host) (entityType : String) (id : Id)
    (edges : List Dependency) : List Dependency :=
  edges.takeWhile fun edge => (breakAlong catalog host entityType id edge).isNone

def followed (catalog : Catalog) (host : Host) (entityType : String) (id : Id) :
    List Dependency :=
  unbroken catalog host entityType id (catalog.dependencies.edgesFrom entityType)

/-- The first failure of a dependency. -/
def interruption (catalog : Catalog) (host : Host) (entityType : String) (id : Id) :
    Option Failure :=
  (catalog.dependencies.edgesFrom entityType).findSome? (breakAlong catalog host entityType id)

def answer : Option Failure → Except Failure Unit
  | none => .ok ()
  | some failure => .error failure

variable {catalog : Catalog} {host : Host} {entityType : String} {id : Id} {edge : Dependency}

theorem breakAlong_eq_some_iff (failure : Failure) :
    breakAlong catalog host entityType id edge = some failure ↔
      catalog.registry.isRegistered edge.dependent = true ∧
        ∃ cause, host.resolve entityType id.value edge.relation = .error cause ∧
          failure = .association entityType id.value edge.relation cause := by
  unfold breakAlong
  by_cases registered : catalog.registry.isRegistered edge.dependent = true
  · cases resolved : host.resolve entityType id.value edge.relation with
    | ok refs => simp [registered]
    | error cause => simp [registered, eq_comm]
  · simp [registered]

theorem resolves_of_unbroken (unbroken : breakAlong catalog host entityType id edge = none)
    (registered : catalog.registry.isRegistered edge.dependent = true) :
    ∃ refs, host.resolve entityType id.value edge.relation = .ok refs := by
  cases resolved : host.resolve entityType id.value edge.relation with
  | ok refs => exact ⟨refs, rfl⟩
  | error cause =>
      have breaks := (breakAlong_eq_some_iff _).2 ⟨registered, cause, resolved, rfl⟩
      rw [unbroken] at breaks
      cases breaks

/-- Along a dependency that fails nothing is done. -/
theorem cascadeAlong_of_break {failure : Failure}
    (breaks : breakAlong catalog host entityType id edge = some failure) :
    cascadeAlong catalog host entityType id.value edge = Action.fail failure := by
  obtain ⟨registered, cause, unresolved, rfl⟩ := (breakAlong_eq_some_iff _).1 breaks
  exact cascadeAlong_of_unresolved registered unresolved

/-! ## Told owners -/

/-- A store in which some owners were told of a change, one after the other. -/
structure Tends (catalog : Catalog) (host : Host) (told : List Ref) (before after : Store) :
    Prop where
  kind : after.kind = before.kind
  lists : ∀ listing, before.Lists listing →
    after.Lists (Listing.tend (notified catalog host) told listing)

variable {told more : List Ref} {before middle after : Store}

theorem Tends.refl (before : Store) : Tends catalog host [] before before :=
  ⟨rfl, fun _ lists => lists⟩

theorem Tends.trans (first : Tends catalog host told before middle)
    (second : Tends catalog host more middle after) :
    Tends catalog host (told ++ more) before after where
  kind := second.kind.trans first.kind
  lists := fun listing lists => by
    rw [Listing.tend_append]
    exact second.lists _ (first.lists listing lists)

theorem Tends.found (tends : Tends catalog host told before after) {listing : List Entry}
    (lists : before.Lists listing) :
    after.find? = Listing.tended (notified catalog host) told before.find? := by
  rw [funext (tends.lists listing lists).find?_eq, funext lists.find?_eq,
    Listing.find?_tend (isSettling_notified catalog host) lists.owners_nodup]

section Lazy

variable (lazy : catalog.settings.eagerReindex = false)
include lazy

/-- Where nothing is built at once, visits come to their end. -/
theorem IsVisiting.tends {α : Type} {action : Action Index α}
    (visits : IsVisiting catalog host told action) (opened : before.requireOpen = .ok ())
    (accepts : ∀ owner ∈ told, before.Accepts owner.id) {outcome : Except Failure α}
    (runs : Runs action before outcome after) :
    (∃ value, outcome = .ok value) ∧ Tends catalog host told before after := by
  rcases visits opened accepts runs with ⟨-, -, eager, -⟩ | ⟨returned, kind, visited⟩
  · rw [lazy] at eager
    cases eager
  · exact ⟨returned, kind, visited⟩

variable (named : ∀ searched, catalog.registry.isRegistered searched = true → searched ≠ "")
include named

theorem isServed_of_lazy (searched : String) : IsServed catalog host searched where
  named := named searched
  steady := fun _ eager => by
    rw [lazy] at eager
    cases eager

/-- The dependents along all dependencies before the first that fails are told, and its failure is
the answer. The induction is on the dependencies. -/
theorem each_cascadeAlong_inv {edges : List Dependency} (opened : before.requireOpen = .ok ())
    (accepts : ∀ owner ∈ (unbroken catalog host entityType id edges).flatMap
      (toldAlong catalog host entityType id), before.Accepts owner.id)
    {outcome : Except Failure (List Unit)}
    (runs : Runs (Action.each (cascadeAlong catalog host entityType id.value) edges)
      before outcome after) :
    (outcome.map fun _ => ()) = answer (edges.findSome? (breakAlong catalog host entityType id)) ∧
      Tends catalog host ((unbroken catalog host entityType id edges).flatMap
        (toldAlong catalog host entityType id)) before after := by
  induction edges generalizing before outcome with
  | nil =>
      obtain ⟨rfl, rfl⟩ := runs.each_nil_inv
      exact ⟨rfl, Tends.refl _⟩
  | cons edge rest inductionHypothesis =>
      cases breaks : breakAlong catalog host entityType id edge with
      | some failure =>
          have untold : unbroken catalog host entityType id (edge :: rest) = [] := by
            simp [unbroken, breaks]
          have first : (edge :: rest).findSome? (breakAlong catalog host entityType id) =
              some failure := by
            simp [breaks]
          rw [untold, first]
          have failed {start finish : Store} {result : Except Failure Unit}
              (ran : Runs (cascadeAlong catalog host entityType id.value edge)
                start result finish) : result = .error failure ∧ finish = start := by
            rw [cascadeAlong_of_break breaks] at ran
            exact ran.fail_inv
          rcases runs.each_cons_inv with ⟨value, middle, ran, -⟩ | ⟨other, rfl, ran⟩
          · cases (failed ran).1
          · obtain ⟨same, rfl⟩ := failed ran
            cases same
            exact ⟨rfl, Tends.refl _⟩
      | none =>
          have told : unbroken catalog host entityType id (edge :: rest) =
              edge :: unbroken catalog host entityType id rest := by
            simp [unbroken, breaks]
          have later : (edge :: rest).findSome? (breakAlong catalog host entityType id) =
              rest.findSome? (breakAlong catalog host entityType id) := by
            simp [breaks]
          rw [told, List.flatMap_cons] at accepts
          rw [told, later, List.flatMap_cons]
          have visits : IsVisiting catalog host (toldAlong catalog host entityType id edge)
              (cascadeAlong catalog host entityType id.value edge) :=
            isVisiting_cascadeAlong (fun _ _ => isServed_of_lazy lazy named edge.dependent)
              (resolves_of_unbroken breaks)
          have visited {finish : Store} {result : Except Failure Unit}
              (ran : Runs (cascadeAlong catalog host entityType id.value edge)
                before result finish) :=
            visits.tends lazy opened (fun owner member => accepts owner
              (List.mem_append_left _ member)) ran
          rcases runs.each_cons_inv with ⟨value, middle, ran, others⟩ | ⟨failure, -, ran⟩
          · have tends := (visited ran).2
            have openedNow := (Store.requireOpen_of_kind tends.kind).trans opened
            have acceptsNow := fun owner member => Store.accepts_of_kind tends.kind
              (accepts owner (List.mem_append_right _ member))
            rcases others with ⟨values, rfl, ran⟩ | ⟨failure, rfl, ran⟩
            · obtain ⟨answered, tendsRest⟩ := inductionHypothesis openedNow acceptsNow ran
              exact ⟨answered, tends.trans tendsRest⟩
            · obtain ⟨answered, tendsRest⟩ := inductionHypothesis openedNow acceptsNow ran
              exact ⟨answered, tends.trans tendsRest⟩
          · obtain ⟨⟨value, impossible⟩, -⟩ := visited ran
            cases impossible

theorem cascade_inv (opened : before.requireOpen = .ok ())
    (accepts : ∀ owner ∈ (followed catalog host entityType id).flatMap
      (toldAlong catalog host entityType id), before.Accepts owner.id)
    {outcome : Except Failure Unit}
    (runs : Runs (cascade catalog host entityType id.value) before outcome after) :
    outcome = answer (interruption catalog host entityType id) ∧
      Tends catalog host ((followed catalog host entityType id).flatMap
        (toldAlong catalog host entityType id)) before after := by
  rcases runs.bind_inv with ⟨values, middle, ran, rest⟩ | ⟨failure, rfl, ran⟩
  · obtain ⟨rfl, rfl⟩ := rest.pure_inv
    exact each_cascadeAlong_inv lazy named opened accepts ran
  · exact each_cascadeAlong_inv lazy named opened accepts ran

end Lazy

/-! ## Changes -/

/-- The owner of a changed record itself, if the change has to do with its entry. -/
def toldFirst (catalog : Catalog) (kind : ChangeKind) (own : Ref) : List Ref :=
  if kind = .destroy then [own] else ifSearched catalog own

/-- The owners that depend on a record along the dependencies before the first that fails. -/
def toldNext (catalog : Catalog) (host : Host) (entityType : String) (id : Id) : List Ref :=
  (followed catalog host entityType id).flatMap (toldAlong catalog host entityType id)

/-- All owners that are told of a change before it breaks off. -/
def toldUntilBreak (catalog : Catalog) (host : Host) (kind : ChangeKind) (entityType : String)
    (id : Id) : List Ref :=
  toldFirst catalog kind ⟨entityType, id⟩ ++ toldNext catalog host entityType id

/-- The entries once the own entry of a changed record was removed, or flagged. -/
def viewFirst (catalog : Catalog) (host : Host) (kind : ChangeKind) (own : Ref)
    (view : Ref → Option Entry) : Ref → Option Entry :=
  if kind = .destroy then Function.update view own none
  else Listing.tended (notified catalog host) (ifSearched catalog own) view

/-- An owner that is told is left its entry or a placeholder, flagged. -/
theorem notified_of_lazy (lazy : catalog.settings.eagerReindex = false) (owner : Ref)
    (held : Option Entry) :
    notified catalog host owner held =
      some ((held.map Entry.asStale).getD ⟨owner, .placeholder⟩) := by
  simp [notified, lazy]

theorem stale_of_notified (lazy : catalog.settings.eagerReindex = false) (owner : Ref)
    (held : Option Entry) :
    ∃ entry, notified catalog host owner held = some entry ∧ entry.content.stale = true := by
  refine ⟨_, notified_of_lazy lazy owner held, ?_⟩
  cases held <;> rfl

/-- The change of the record itself, and the visits along the dependencies that are followed. -/
theorem onChange_inv (lazy : catalog.settings.eagerReindex = false)
    (named : ∀ searched, catalog.registry.isRegistered searched = true → searched ≠ "")
    {kind : ChangeKind} (opened : before.requireOpen = .ok ())
    (accepts : ∀ owner ∈ toldUntilBreak catalog host kind entityType id, before.Accepts owner.id)
    (ordered : before.IsOrdered) {outcome : Except Failure Unit}
    (runs : Runs (onChange catalog host ⟨kind, entityType, id.value⟩) before outcome after) :
    outcome = answer (interruption catalog host entityType id) ∧
      after.find? = Listing.tended (notified catalog host) (toldNext catalog host entityType id)
        (viewFirst catalog host kind ⟨entityType, id⟩ before.find?) := by
  have lists : before.Lists before.entries := ⟨ordered, rfl⟩
  have acceptsFirst := fun owner member => accepts owner (List.mem_append_left _ member)
  have acceptsNext := fun owner member => accepts owner (List.mem_append_right _ member)
  -- Whatever became of the own entry, the cascade goes on from there.
  have next {middle : Store} {view : Ref → Option Entry} {listing : List Entry}
      (kindSame : middle.kind = before.kind) (found : middle.find? = view)
      (listed : middle.Lists listing)
      (ran : Runs (cascade catalog host entityType id.value) middle outcome after) :
      outcome = answer (interruption catalog host entityType id) ∧
        after.find? = Listing.tended (notified catalog host)
          (toldNext catalog host entityType id) view := by
    obtain ⟨answered, tends⟩ := cascade_inv lazy named
      ((Store.requireOpen_of_kind kindSame).trans opened)
      (fun owner member => Store.accepts_of_kind kindSame (acceptsNext owner member)) ran
    exact ⟨answered, by rw [tends.found listed, found]; rfl⟩
  have flagged (stays : kind ≠ .destroy) (cause : String)
      (ran : Runs (invalidate catalog host cause entityType id.value >>= fun _ =>
        cascade catalog host entityType id.value) before outcome after) :
      outcome = answer (interruption catalog host entityType id) ∧
        after.find? = Listing.tended (notified catalog host) (toldNext catalog host entityType id)
          (viewFirst catalog host kind ⟨entityType, id⟩ before.find?) := by
    have own : toldFirst catalog kind ⟨entityType, id⟩ = ifSearched catalog ⟨entityType, id⟩ :=
      if_neg stays
    rw [own] at acceptsFirst
    have visits : IsVisiting catalog host (ifSearched catalog ⟨entityType, id⟩)
        (invalidate catalog host cause entityType id.value) :=
      isVisiting_invalidate (isServed_of_lazy lazy named entityType) cause
    rcases ran.bind_inv with ⟨value, middle, first, rest⟩ | ⟨failure, -, first⟩
    · have tends := (visits.tends lazy opened acceptsFirst first).2
      refine next tends.kind ?_ (tends.lists _ lists) rest
      rw [tends.found lists, viewFirst, if_neg stays]
    · obtain ⟨⟨value, impossible⟩, -⟩ := visits.tends lazy opened acceptsFirst first
      cases impossible
  have ran := runs.bound_inv
  cases kind with
  | destroy =>
      have acceptsOwn := acceptsFirst ⟨entityType, id⟩ (by simp [toldFirst])
      rcases ran.bind_inv with ⟨value, middle, first, rest⟩ | ⟨failure, -, first⟩
      · have placed := (first.forget_inv opened acceptsOwn).2
        refine next placed.kind ?_ (placed.lists lists) rest
        rw [placed.found, viewFirst, if_pos rfl]
      · cases (first.forget_inv opened acceptsOwn).1
  | create => exact flagged (by simp) _ ran
  | update => exact flagged (by simp) _ ran

/-- What a change leaves that breaks off at the first relation that cannot be resolved, if there is
one. Whoever was told before has no fresh entry, and whoever was not has what it had. -/
structure Halts (catalog : Catalog) (host : Host) (kind : ChangeKind) (entityType : String) (id : Id)
    (before : Store) (outcome : Except Failure Unit) (after : Store) : Prop where
  answered : outcome = answer (interruption catalog host entityType id)
  flagged : kind ≠ .destroy → catalog.registry.isRegistered entityType = true →
    ∃ entry, after.find? ⟨entityType, id⟩ = some entry ∧ entry.content.stale = true
  removed : kind = .destroy → after.find? ⟨entityType, id⟩ =
    if ⟨entityType, id⟩ ∈ toldNext catalog host entityType id then
      some ⟨⟨entityType, id⟩, .placeholder⟩
    else none
  fresh_iff : ∀ owner, after.IsFresh owner ↔
    before.IsFresh owner ∧ owner ∉ toldUntilBreak catalog host kind entityType id
  untold : ∀ owner, owner ∉ toldUntilBreak catalog host kind entityType id →
    after.find? owner = before.find? owner

section Halting

variable {kind : ChangeKind} {owner own : Ref} {view : Ref → Option Entry}

theorem eq_of_mem_toldFirst (member : owner ∈ toldFirst catalog kind own) : owner = own := by
  unfold toldFirst ifSearched at member
  split at member
  · exact List.mem_singleton.1 member
  · split at member
    · exact List.mem_singleton.1 member
    · cases member

theorem viewFirst_of_not_mem (untold : owner ∉ toldFirst catalog kind own) :
    viewFirst catalog host kind own view owner = view owner := by
  unfold toldFirst at untold
  unfold viewFirst
  split
  · rename_i destroyed
    rw [if_pos destroyed, List.mem_singleton] at untold
    exact Function.update_of_ne untold _ _
  · rename_i stays
    rw [if_neg stays] at untold
    exact if_neg untold

/-- The own entry of a changed record is gone, or flagged. -/
theorem viewFirst_of_mem (told : owner ∈ toldFirst catalog kind own) :
    viewFirst catalog host kind own view owner =
      if kind = .destroy then none else notified catalog host owner (view owner) := by
  obtain rfl := eq_of_mem_toldFirst told
  unfold toldFirst at told
  unfold viewFirst
  split
  · exact Function.update_self _ _ _
  · rename_i stays
    rw [if_neg stays] at told
    exact if_pos told

theorem not_fresh_of_none (absent : after.find? owner = none) : ¬ after.IsFresh owner := by
  rintro ⟨entry, found, -⟩
  rw [absent] at found
  cases found

theorem isFresh_congr (same : after.find? owner = before.find? owner) :
    after.IsFresh owner ↔ before.IsFresh owner := by
  rw [Store.IsFresh, Store.IsFresh, same]

theorem not_fresh_of_notified (lazy : catalog.settings.eagerReindex = false) {held : Option Entry}
    (found : after.find? owner = notified catalog host owner held) : ¬ after.IsFresh owner := by
  obtain ⟨flagged, isFlagged, stale⟩ := stale_of_notified lazy owner held
  rintro ⟨entry, isEntry, fresh⟩
  rw [found, isFlagged, Option.some.injEq] at isEntry
  rw [← isEntry, stale] at fresh
  cases fresh

/-- What the notification makes of the entries, owner by owner. -/
theorem halts_of_found (lazy : catalog.settings.eagerReindex = false)
    {outcome : Except Failure Unit}
    (answered : outcome = answer (interruption catalog host entityType id))
    (found : after.find? = Listing.tended (notified catalog host)
      (toldNext catalog host entityType id)
      (viewFirst catalog host kind ⟨entityType, id⟩ before.find?)) :
    Halts catalog host kind entityType id before outcome after := by
  have next {owner : Ref} (told : owner ∈ toldNext catalog host entityType id) :
      after.find? owner = notified catalog host owner
        (viewFirst catalog host kind ⟨entityType, id⟩ before.find? owner) := by
    rw [found]
    exact if_pos told
  have first {owner : Ref} (untold : owner ∉ toldNext catalog host entityType id) :
      after.find? owner = viewFirst catalog host kind ⟨entityType, id⟩ before.find? owner := by
    rw [found]
    exact if_neg untold
  have untold : ∀ owner, owner ∉ toldUntilBreak catalog host kind entityType id →
      after.find? owner = before.find? owner := by
    intro owner outside
    obtain ⟨notFirst, notNext⟩ := not_or.1 (mt List.mem_append.2 outside)
    rw [first notNext, viewFirst_of_not_mem notFirst]
  refine ⟨answered, ?_, ?_, ?_, untold⟩
  · intro stays registered
    by_cases again : ⟨entityType, id⟩ ∈ toldNext catalog host entityType id
    · obtain ⟨entry, isEntry, stale⟩ := stale_of_notified lazy _ _
      exact ⟨entry, (next again).trans isEntry, stale⟩
    · have told : ⟨entityType, id⟩ ∈ toldFirst catalog kind ⟨entityType, id⟩ := by
        simp [toldFirst, stays, ifSearched, registered]
      obtain ⟨entry, isEntry, stale⟩ := stale_of_notified lazy _ _
      rw [first again, viewFirst_of_mem told, if_neg stays]
      exact ⟨entry, isEntry, stale⟩
  · intro destroyed
    have told : ⟨entityType, id⟩ ∈ toldFirst catalog kind ⟨entityType, id⟩ := by
      simp [toldFirst, destroyed]
    have gone : viewFirst catalog host kind ⟨entityType, id⟩ before.find? ⟨entityType, id⟩ =
        none := by
      rw [viewFirst_of_mem told, if_pos destroyed]
    split
    · rename_i again
      rw [next again, gone, notified_of_lazy lazy]
      rfl
    · rename_i again
      rw [first again, gone]
  · intro owner
    by_cases inNext : owner ∈ toldNext catalog host entityType id
    · have lost := not_fresh_of_notified lazy (next inNext)
      simp [lost, toldUntilBreak, inNext]
    · by_cases inFirst : owner ∈ toldFirst catalog kind ⟨entityType, id⟩
      · have lost : ¬ after.IsFresh owner := by
          have left := first inNext
          rw [viewFirst_of_mem inFirst] at left
          split at left
          · exact not_fresh_of_none left
          · exact not_fresh_of_notified lazy left
        simp [lost, toldUntilBreak, inFirst]
      · have outside : owner ∉ toldUntilBreak catalog host kind entityType id := by
          simp [toldUntilBreak, inFirst, inNext]
        simp [isFresh_congr (untold owner outside), outside]

end Halting

theorem mem_toldNext_of_reached {owner : Ref}
    (member : edge ∈ followed catalog host entityType id)
    (reached : Reached catalog host entityType id edge owner) :
    owner ∈ toldNext catalog host entityType id := by
  obtain ⟨registered, refs, resolved, ref, isRef, rfl⟩ := reached
  refine List.mem_flatMap.2 ⟨edge, member, List.mem_flatMap.2 ⟨ref, ?_, ?_⟩⟩
  · rwa [dependents, resolved]
  · simp [ifSearched, registered]

/-- Whether the relation of a dependency cannot be resolved, though its dependent type has searchable
fields. -/
def Fails (catalog : Catalog) (host : Host) (entityType : String) (id : Id) (edge : Dependency) :
    Prop :=
  catalog.registry.isRegistered edge.dependent = true ∧
    ∃ cause, host.resolve entityType id.value edge.relation = .error cause

theorem breakAlong_eq_none_iff :
    breakAlong catalog host entityType id edge = none ↔
      ¬ Fails catalog host entityType id edge := by
  rw [Option.eq_none_iff_forall_ne_some]
  simp only [ne_eq, breakAlong_eq_some_iff, Fails]
  grind

theorem interruption_eq_none_iff :
    interruption catalog host entityType id = none ↔
      ∀ edge ∈ catalog.dependencies.edgesFrom entityType,
        ¬ Fails catalog host entityType id edge := by
  simp only [interruption, List.findSome?_eq_none_iff, breakAlong_eq_none_iff]

/-- A dependency is followed if no earlier one fails, and it does not fail itself. -/
theorem mem_followed_of_split {earlier later : List Dependency}
    (split : catalog.dependencies.edgesFrom entityType = earlier ++ edge :: later)
    (sound : ∀ other ∈ earlier, ¬ Fails catalog host entityType id other)
    (resolves : ¬ Fails catalog host entityType id edge) :
    edge ∈ followed catalog host entityType id := by
  have kept : ∀ other ∈ earlier, (breakAlong catalog host entityType id other).isNone = true :=
    fun other member => by simp [breakAlong_eq_none_iff.2 (sound other member)]
  rw [followed, unbroken, split, List.takeWhile_append_of_pos kept]
  simp [breakAlong_eq_none_iff.2 resolves]

theorem not_fails_of_reached {owner : Ref} (reached : Reached catalog host entityType id edge owner) :
    ¬ Fails catalog host entityType id edge := by
  obtain ⟨-, refs, resolved, -⟩ := reached
  rintro ⟨-, cause, unresolved⟩
  rw [resolved] at unresolved
  cases unresolved

/-- A notification comes to its end exactly if every relation can be resolved that it has to follow,
and else fails with the first that cannot. It takes the fresh entries of the changed record and of
all dependents that it came to, and of no others. So no dependent keeps a fresh entry exactly if
those that it did not come to had none. -/
theorem notification_halts (kind : ChangeKind) (index : Index) (ordered : index.store.IsOrdered)
    (lazy : catalog.settings.eagerReindex = false)
    (named : ∀ searched, catalog.registry.isRegistered searched = true → searched ≠ "")
    (serves : index.store.Serves fun known =>
      ∃ owner ∈ toldUntilBreak catalog host kind entityType id, owner.id = known) :
    let edges := catalog.dependencies.edgesFrom entityType
    let result := onChange catalog host ⟨kind, entityType, id.value⟩ index
    Halts catalog host kind entityType id index.store result.1 result.2.store ∧
      (result.1 = .ok () ↔ ∀ edge ∈ edges, ¬ Fails catalog host entityType id edge) ∧
      (∀ failure, result.1 = .error failure →
        ∃ edge ∈ edges, ∃ cause, host.resolve entityType id.value edge.relation = .error cause ∧
          failure = .association entityType id.value edge.relation cause) ∧
      (∀ earlier edge later, edges = earlier ++ edge :: later →
        (∀ other ∈ earlier, ¬ Fails catalog host entityType id other) → ∀ owner,
          Reached catalog host entityType id edge owner → ¬ result.2.store.IsFresh owner) ∧
      ((∀ edge ∈ edges, ∀ owner,
          Reached catalog host entityType id edge owner → ¬ result.2.store.IsFresh owner) ↔
        ∀ edge ∈ edges, ∀ owner, Reached catalog host entityType id edge owner →
          index.store.IsFresh owner → owner ∈ toldUntilBreak catalog host kind entityType id) := by
  intro edges result
  have accepts : ∀ owner ∈ toldUntilBreak catalog host kind entityType id,
      index.store.Accepts owner.id := fun owner member =>
    serves.accepts owner.id ⟨owner, member, rfl⟩
  obtain ⟨answered, found⟩ := onChange_inv lazy named serves.opened accepts ordered
    (runs_self (onChange catalog host ⟨kind, entityType, id.value⟩) index)
  have halts := halts_of_found lazy answered found
  refine ⟨halts, ?_, ?_, ?_, ?_⟩
  · rw [← interruption_eq_none_iff, answered]
    cases interruption catalog host entityType id <;> simp [answer]
  · intro failure failed
    rw [answered] at failed
    cases broken : interruption catalog host entityType id with
    | none =>
        rw [broken] at failed
        cases failed
    | some first =>
        rw [broken] at failed
        cases failed
        obtain ⟨edge, member, breaks⟩ := List.exists_of_findSome?_eq_some broken
        obtain ⟨-, cause, resolved, same⟩ := (breakAlong_eq_some_iff _).1 breaks
        exact ⟨edge, member, cause, resolved, same⟩
  · intro earlier edge later split sound owner reached fresh
    have member := mem_followed_of_split split sound (not_fails_of_reached reached)
    exact ((halts.fresh_iff owner).1 fresh).2
      (List.mem_append_right _ (mem_toldNext_of_reached member reached))
  · constructor
    · intro emptied edge member owner reached fresh
      by_contra untold
      exact emptied edge member owner reached ((halts.fresh_iff owner).2 ⟨fresh, untold⟩)
    · intro covered edge member owner reached fresh
      obtain ⟨wasFresh, untold⟩ := (halts.fresh_iff owner).1 fresh
      exact untold (covered edge member owner reached wasFresh)

/-! ## A user with posts and notes -/

/-- Posts and notes depend on their user, posts first. -/
def shelf : Catalog where
  settings := default
  registry := ⟨true, .ofList
    [("post", ⟨true, .ofList [("title", ⟨.extractor (.attributes ["title"]), true⟩)]⟩),
      ("note", ⟨true, .ofList [("author", ⟨.extractor (.association "user" ["name"]), true⟩)]⟩)]⟩
  dependencies := .ofEdges [⟨"post", "user", "posts"⟩, ⟨"note", "user", "notes"⟩]

/-- The user of a note has a new name, and its posts cannot be resolved. -/
def strained : Host where
  records := .ofList [(("user", .int 1), ⟨.int 1, .ofList [("name", .str "thread")]⟩),
    (("note", .int 7), ⟨.int 7, .ofList [("user_id", .int 1)]⟩)]
  destroyed := .empty
  relations := .ofList [(("user", "posts"), ⟨"post", "user_id", .hasMany⟩),
    (("user", "notes"), ⟨"note", "user_id", .hasMany⟩),
    (("note", "user"), ⟨"user", "user_id", .belongsTo⟩)]
  counters := .empty
  outage := ⟨[], ["posts"], []⟩

/-- The note was built when its user had the old name. -/
def shelved : Index :=
  { (default : Index) with
    store := .memory (MemoryStore.empty.upsert ⟨⟨"note", .int 7⟩,
      .ofTexts ⟨"needle", .ofList [("author", "needle")]⟩⟩) }

theorem resolve_notes :
    strained.resolve "user" (.int 1) "notes" = .ok [⟨"note", .int 7⟩] := by
  have found : (strained.resolve "user" (.int 1) "notes").toOption = some [⟨"note", .int 7⟩] := by
    decide +kernel
  cases resolved : strained.resolve "user" (.int 1) "notes" with
  | ok refs =>
      rw [resolved] at found
      exact congrArg Except.ok (Option.some.inj found)
  | error failure =>
      rw [resolved] at found
      cases found

/-- The posts of the user cannot be resolved, which fails the notification. -/
theorem notification_halts_shelf :
    let result := onChange shelf strained ⟨.update, "user", .int 1⟩ shelved
    Halts shelf strained .update "user" (.int 1) shelved.store result.1 result.2.store ∧
      Fails shelf strained "user" (.int 1) ⟨"post", "user", "posts"⟩ ∧ result.1 ≠ .ok () := by
  intro result
  have fails : Fails shelf strained "user" (.int 1) ⟨"post", "user", "posts"⟩ :=
    ⟨by decide +kernel, _, rfl⟩
  have named : ∀ searched, shelf.registry.isRegistered searched = true → searched ≠ "" := by
    rintro searched registered rfl
    exact absurd registered (by decide +kernel)
  obtain ⟨halts, returned_iff, -⟩ := notification_halts .update shelved trivial rfl named
    ⟨rfl, fun _ _ => trivial⟩
  exact ⟨halts, fails, fun returned => returned_iff.1 returned _ (by decide +kernel) fails⟩

/-- The note of the user is resolved, and its entry stays fresh. -/
theorem interrupted_keeps_fresh :
    let result := onChange shelf strained ⟨.update, "user", .int 1⟩ shelved
    ¬ ∀ edge ∈ shelf.dependencies.edgesFrom "user", ∀ owner,
      Reached shelf strained "user" (.int 1) edge owner → ¬ result.2.store.IsFresh owner := by
  intro result emptied
  have reached : Reached shelf strained "user" (.int 1) ⟨"note", "user", "notes"⟩
      ⟨"note", .int 7⟩ :=
    ⟨by decide +kernel, _, resolve_notes, ⟨"note", .int 7⟩, by simp, rfl⟩
  exact emptied ⟨"note", "user", "notes"⟩ (by decide +kernel) _ reached ⟨_, rfl, rfl⟩

end Index

end ShadowIndex
