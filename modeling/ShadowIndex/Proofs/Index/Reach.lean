import ShadowIndex.Index.Change
import ShadowIndex.Proofs.Index.Batch
import ShadowIndex.Proofs.Store.Tending

/-!
Contract: a change that is told to the index touches its record and what depends on it, one step
far, and nothing else.

Owns:
- `Index.toldBy`, the owners that a created or updated record is told to, in order;
- `Index.notified`, what each of them is left;
- `Index.onChange_visits`: those owners, no others, in their places or after all entries.

Does not own: destroyed records, or what failing relations leave.
-/

set_option autoImplicit false

namespace ShadowIndex

/-- Two writes for one owner leave it what the second gives. -/
theorem Store.Places.again {before middle after : Store} {owner : Ref} {given : Entry}
    {held : Option Entry} (first : before.Places owner (some given) middle)
    (second : middle.Places owner held after) (isOwner : given.owner = owner)
    (isOwned : ∀ entry, held = some entry → entry.owner = owner) :
    before.Places owner held after where
  kind := second.kind.trans first.kind
  found := by rw [second.found, first.found, Function.update_idem]
  lists := by
    intro listing lists
    have last := second.lists (first.lists lists)
    rwa [Listing.place_place lists.owners_nodup isOwner isOwned] at last

namespace Index

/-! ## Who is told -/

/-- The records that a relation reaches; none if it cannot be resolved. -/
def dependents (host : Host) (entityType : String) (id : Id) (relation : String) : List Ref :=
  match host.resolve entityType id.value relation with
  | .ok refs => refs
  | .error _ => []

/-- An owner, if its type has searchable fields. -/
def ifSearched (catalog : Catalog) (owner : Ref) : List Ref :=
  if catalog.registry.isRegistered owner.entityType then [owner] else []

/-- The owners that one dependency reaches from a record. -/
def toldAlong (catalog : Catalog) (host : Host) (entityType : String) (id : Id)
    (edge : Dependency) : List Ref :=
  (dependents host entityType id edge.relation).flatMap fun ref =>
    ifSearched catalog ⟨edge.dependent, ref.id⟩

/-- The owners that a created or updated record is told to: itself, then what depends on it, by
dependency and in the order of the relation. Types without searchable fields are left out. -/
def toldBy (catalog : Catalog) (host : Host) (entityType : String) (id : Id) : List Ref :=
  ifSearched catalog ⟨entityType, id⟩ ++
    (catalog.dependencies.edgesFrom entityType).flatMap (toldAlong catalog host entityType id)

/-- What an owner is left that is told of a change: its entry or a placeholder, flagged; where that is
asked for, what is built at once instead, or nothing if the record is gone. -/
def notified (catalog : Catalog) (host : Host) (owner : Ref) (held : Option Entry) : Option Entry :=
  let flagged := (held.map Entry.asStale).getD ⟨owner, .placeholder⟩
  if catalog.settings.eagerReindex then afterRebuild (catalog.live host owner) (some flagged)
  else some flagged

variable {catalog : Catalog} {host : Host}

theorem isSettling_notified (catalog : Catalog) (host : Host) :
    Listing.IsSettling (notified catalog host) where
  owned := by
    intro owner held isOwner entry given
    have flagged : ((held.map Entry.asStale).getD ⟨owner, .placeholder⟩).owner = owner := by
      cases held with
      | none => rfl
      | some present => exact isOwner present rfl
    unfold notified at given
    split at given
    · refine owner_of_afterRebuild ?_ entry given
      rintro _ ⟨⟩
      exact flagged
    · simp only [Option.some.injEq] at given
      exact given ▸ flagged
  settled := by
    intro owner held
    unfold notified
    cases catalog.settings.eagerReindex with
    | false => cases held <;> rfl
    | true =>
        cases catalog.live host owner with
        | ok rebuilt? => rfl
        | error failure => cases held <;> rfl

/-! ## Visits -/

/-- A build of one of some owners ends the program. -/
def EndsAmong (catalog : Catalog) (host : Host) (told : List Ref) (failure : Failure) : Prop :=
  catalog.settings.eagerReindex = true ∧ failure.isEnding = true ∧
    ∃ owner ∈ told, catalog.live host owner = .error failure

/-- Work that tells some owners of a change, one after the other, unless a build ends the program. -/
def IsVisiting {α : Type} (catalog : Catalog) (host : Host) (told : List Ref)
    (action : Action Index α) : Prop :=
  ∀ ⦃before after : Store⦄ ⦃outcome : Except Failure α⦄, before.requireOpen = .ok () →
    (∀ owner ∈ told, before.Accepts owner.id) → Runs action before outcome after →
    (∃ failure, outcome = .error failure ∧ EndsAmong catalog host told failure) ∨
      (∃ value, outcome = .ok value) ∧ after.kind = before.kind ∧
        ∀ listing, before.Lists listing →
          after.Lists (Listing.tend (notified catalog host) told listing)

variable {α β : Type} {told more : List Ref}

theorem EndsAmong.mono {failure : Failure} (ends : EndsAmong catalog host told failure)
    (within : ∀ owner ∈ told, owner ∈ more) : EndsAmong catalog host more failure := by
  obtain ⟨eager, ending, owner, member, failed⟩ := ends
  exact ⟨eager, ending, owner, within owner member, failed⟩

theorem isVisiting_of_quiet {action : Action Index α}
    (quiet : ∀ {before after : Store} {outcome : Except Failure α},
      Runs action before outcome after → (∃ value, outcome = .ok value) ∧ after = before) :
    IsVisiting catalog host [] action := by
  intro before after outcome _ _ runs
  obtain ⟨returned, rfl⟩ := quiet runs
  exact Or.inr ⟨returned, rfl, fun _ lists => lists⟩

theorem isVisiting_pure (value : α) : IsVisiting catalog host [] (pure value) :=
  isVisiting_of_quiet fun runs => ⟨⟨value, runs.pure_inv.1⟩, runs.pure_inv.2⟩

theorem isVisiting_note (note : Note) : IsVisiting catalog host [] (Index.note note) :=
  isVisiting_of_quiet fun runs => ⟨⟨(), runs.note_inv.1⟩, runs.note_inv.2⟩

/-- Whom the first part visits is visited before whom the second does. -/
theorem IsVisiting.bind {action : Action Index α} {next : α → Action Index β}
    (first : IsVisiting catalog host told action)
    (rest : ∀ value, IsVisiting catalog host more (next value)) :
    IsVisiting catalog host (told ++ more) (action >>= next) := by
  intro before after outcome opened accepts runs
  have acceptsFirst : ∀ owner ∈ told, before.Accepts owner.id := fun owner member =>
    accepts owner (List.mem_append_left more member)
  rcases runs.bind_inv with ⟨value, middle, ran, later⟩ | ⟨failure, rfl, ran⟩
  · rcases first opened acceptsFirst ran with ⟨failure, impossible, -⟩ | ⟨-, kind, visited⟩
    · cases impossible
    have acceptsRest : ∀ owner ∈ more, middle.Accepts owner.id := fun owner member =>
      Store.accepts_of_kind kind (accepts owner (List.mem_append_right told member))
    rcases rest value ((Store.requireOpen_of_kind kind).trans opened) acceptsRest later with
      ⟨failure, failed, ends⟩ | ⟨returned, laterKind, laterVisited⟩
    · exact Or.inl ⟨failure, failed, ends.mono fun _ => List.mem_append_right told⟩
    · refine Or.inr ⟨returned, laterKind.trans kind, fun listing lists => ?_⟩
      rw [Listing.tend_append]
      exact laterVisited _ (visited listing lists)
  · rcases first opened acceptsFirst ran with ⟨same, isSame, ends⟩ | ⟨⟨value, impossible⟩, -⟩
    · exact Or.inl ⟨same, congrArg Except.error (Except.error.inj isSame),
        ends.mono fun _ => List.mem_append_left more⟩
    · cases impossible

theorem isVisiting_each {action : α → Action Index β} {items : List α} {told : α → List Ref}
    (step : ∀ item ∈ items, IsVisiting catalog host (told item) (action item)) :
    IsVisiting catalog host (items.flatMap told) (Action.each action items) := by
  induction items with
  | nil => exact isVisiting_pure []
  | cons item rest inductionHypothesis =>
      have others := inductionHypothesis fun other member => step other (List.mem_cons_of_mem item member)
      have collected (value : β) : IsVisiting catalog host (rest.flatMap told ++ [])
          (Action.each action rest >>= fun values => pure (value :: values)) :=
        others.bind fun values => isVisiting_pure (value :: values)
      have whole := (step item List.mem_cons_self).bind collected
      rwa [List.append_nil] at whole

theorem IsVisiting.bound {work : Action Index α} (visits : IsVisiting catalog host told work)
    (fields : List (String × Value)) : IsVisiting catalog host told (bound fields work) :=
  fun _ _ _ opened accepts runs => visits opened accepts runs.bound_inv

/-! ## Single owners -/

section Owners

variable {entityType : String} {id : Id}

/-- A type whose records can be told of changes: if it has searchable fields it has a name, and where
entries are built at once, they are built alike each time. -/
structure IsServed (catalog : Catalog) (host : Host) (entityType : String) : Prop where
  named : catalog.registry.isRegistered entityType = true → entityType ≠ ""
  steady : catalog.registry.isRegistered entityType = true →
    catalog.settings.eagerReindex = true → catalog.IsSteady host entityType

theorem isVisiting_invalidate (served : IsServed catalog host entityType) (cause : String) :
    IsVisiting catalog host (ifSearched catalog ⟨entityType, id⟩)
      (invalidate catalog host cause entityType id.value) := by
  by_cases registered : catalog.registry.isRegistered entityType = true
  · have only : ifSearched catalog ⟨entityType, id⟩ = [⟨entityType, id⟩] := if_pos registered
    rw [only]
    intro before after outcome opened acceptsAll runs
    have accepts : before.Accepts id := acceptsAll ⟨entityType, id⟩ (by simp)
    simp only [invalidate, registered, Bool.not_true, Bool.false_eq_true, if_false] at runs
    rcases runs.bind_inv with ⟨entry, middle, ensured, rest⟩ | ⟨failure, -, ensured⟩
    · obtain ⟨-, flagged⟩ :=
        ensureStale_inv opened (Or.inl (served.named registered)) accepts ensured.holding_inv
      have isOwner := Store.owner_of_staleEntry before ⟨entityType, id⟩
      have counted := rest.bind_quiet_inv Runs.count_inv
      cases eager : catalog.settings.eagerReindex with
      | false =>
          simp only [eager, Bool.not_false, if_true] at counted
          obtain ⟨rfl, rfl⟩ := counted.pure_inv
          refine Or.inr ⟨⟨_, rfl⟩, flagged.kind, fun listing lists => ?_⟩
          have placed := flagged.lists lists
          simpa [Listing.tend, notified, eager, Store.staleEntry, lists.find?_eq] using placed
      | true =>
          simp only [eager, Bool.not_true, Bool.false_eq_true, if_false] at counted
          obtain ⟨result, ⟨streams, built⟩, placed, known⟩ := eagerBuild_inv
            ((Store.requireOpen_of_kind flagged.kind).trans opened)
            (Store.accepts_of_kind flagged.kind accepts) counted
          rw [Catalog.liveEntry_eq_live (served.steady registered eager)] at built
          subst built
          rcases known with rfl | ⟨failure, rfl, failed, ending⟩
          · have held : middle.find? ⟨entityType, id⟩ =
                some (before.staleEntry ⟨entityType, id⟩) := by
              rw [flagged.found, Function.update_self]
            rw [held] at placed
            have left := flagged.again placed isOwner (owner_of_afterRebuild fun entry same => by
              cases same
              exact isOwner)
            refine Or.inr ⟨⟨_, rfl⟩, left.kind, fun listing lists => ?_⟩
            have placed := left.lists lists
            simpa [Listing.tend, notified, eager, Store.staleEntry, lists.find?_eq] using placed
          · exact Or.inl ⟨failure, rfl, eager, ending, _, List.mem_singleton_self _, failed⟩
    · exact absurd (ensureStale_inv opened (Or.inl (served.named registered)) accepts
        ensured.holding_inv).1 (by simp)
  · have none : ifSearched catalog ⟨entityType, id⟩ = [] := if_neg registered
    have skipped : invalidate catalog host cause entityType id.value = pure () := by
      simp only [invalidate, registered, Bool.not_false, if_true]
    rw [none, skipped]
    exact isVisiting_pure ()

/-! ## Changes -/

theorem isVisiting_cascadeAlong {edge : Dependency}
    (served : ∀ ref ∈ dependents host entityType id edge.relation,
      IsServed catalog host edge.dependent)
    (resolves : catalog.registry.isRegistered edge.dependent = true →
      ∃ refs, host.resolve entityType id.value edge.relation = .ok refs) :
    IsVisiting catalog host (toldAlong catalog host entityType id edge)
      (cascadeAlong catalog host entityType id.value edge) := by
  by_cases registered : catalog.registry.isRegistered edge.dependent = true
  · obtain ⟨refs, resolved⟩ := resolves registered
    have reached : dependents host entityType id edge.relation = refs := by
      rw [dependents, resolved]
    rw [reached] at served
    rw [cascadeAlong_of_resolved registered resolved]
    have each : IsVisiting catalog host (toldAlong catalog host entityType id edge)
        (Action.each (fun (dependent : Ref) =>
          invalidate catalog host "dependency" edge.dependent dependent.id.value) refs) := by
      rw [toldAlong, reached]
      exact isVisiting_each fun ref member => isVisiting_invalidate (served ref member) _
    have noted : IsVisiting catalog host []
        (if !refs.isEmpty then
          Index.note (.dependentsMarked entityType id.value refs.length edge.dependent)
        else pure ()) := by
      split
      · exact isVisiting_note _
      · exact isVisiting_pure ()
    simpa only [List.append_nil] using each.bind fun _ => noted
  · have untold : toldAlong catalog host entityType id edge = [] := by
      simp [toldAlong, ifSearched, registered]
    rw [cascadeAlong_of_unregistered (eq_false_of_ne_true registered), untold]
    exact isVisiting_note _

theorem mem_toldBy_self (registered : catalog.registry.isRegistered entityType = true) :
    (⟨entityType, id⟩ : Ref) ∈ toldBy catalog host entityType id :=
  List.mem_append_left _ (by simp [ifSearched, registered])

theorem mem_toldBy_dependent {edge : Dependency}
    (member : edge ∈ catalog.dependencies.edgesFrom entityType)
    (registered : catalog.registry.isRegistered edge.dependent = true) {ref : Ref}
    (reached : ref ∈ dependents host entityType id edge.relation) :
    (⟨edge.dependent, ref.id⟩ : Ref) ∈ toldBy catalog host entityType id :=
  List.mem_append_right _ (List.mem_flatMap.2 ⟨edge, member,
    List.mem_flatMap.2 ⟨ref, reached, by simp [ifSearched, registered]⟩⟩)

/-- A created or updated record, and what depends on it, are visited in order. -/
theorem isVisiting_onChange {kind : ChangeKind} (stays : kind ≠ .destroy)
    (named : ∀ searched, catalog.registry.isRegistered searched = true → searched ≠ "")
    (resolves : ∀ edge ∈ catalog.dependencies.edgesFrom entityType,
      catalog.registry.isRegistered edge.dependent = true →
        ∃ refs, host.resolve entityType id.value edge.relation = .ok refs)
    (steady : catalog.settings.eagerReindex = true →
      ∀ owner ∈ toldBy catalog host entityType id, catalog.IsSteady host owner.entityType) :
    IsVisiting catalog host (toldBy catalog host entityType id)
      (onChange catalog host ⟨kind, entityType, id.value⟩) := by
  apply IsVisiting.bound
  have ownServed : IsServed catalog host entityType :=
    ⟨named entityType, fun registered eager => steady eager _ (mem_toldBy_self registered)⟩
  have edgeServed : ∀ edge ∈ catalog.dependencies.edgesFrom entityType,
      ∀ ref ∈ dependents host entityType id edge.relation, IsServed catalog host edge.dependent :=
    fun edge member ref reached => ⟨named edge.dependent, fun registered eager =>
      steady eager _ (mem_toldBy_dependent member registered reached)⟩
  have cascades : IsVisiting catalog host
      ((catalog.dependencies.edgesFrom entityType).flatMap (toldAlong catalog host entityType id))
      (cascade catalog host entityType id.value) := by
    have each : IsVisiting catalog host
        ((catalog.dependencies.edgesFrom entityType).flatMap (toldAlong catalog host entityType id))
        (Action.each (cascadeAlong catalog host entityType id.value)
          (catalog.dependencies.edgesFrom entityType)) :=
      isVisiting_each fun edge member =>
        isVisiting_cascadeAlong (edgeServed edge member) (resolves edge member)
    have whole := each.bind fun _ => isVisiting_pure ()
    rwa [List.append_nil] at whole
  cases kind with
  | destroy => exact absurd rfl stays
  | create => exact (isVisiting_invalidate ownServed _).bind fun _ => cascades
  | update => exact (isVisiting_invalidate ownServed _).bind fun _ => cascades

/-- A notification that came to its end: every told owner has what it is left, every other owner what
it had; entries keep their places, and new ones come after them in the order of the telling. -/
structure Reaches (catalog : Catalog) (host : Host) (told : List Ref) (before : Store)
    (outcome : Except Failure Unit) (after : Store) : Prop where
  returned : outcome = .ok ()
  found : ∀ owner, after.find? owner =
    if owner ∈ told then notified catalog host owner (before.find? owner) else before.find? owner
  order : after.entries =
    (Listing.owners before.entries ++
      Listing.newcomers (Listing.owners before.entries) told).filterMap after.find?

/-- A notification of a created or updated record reaches its own entry and those that depend on it,
one step far, and changes no other. Where entries are built at once, a failing build leaves one
flagged and stops no other, unless it ends the program. -/
theorem notification_reaches {kind : ChangeKind} (stays : kind ≠ .destroy) (index : Index)
    (ordered : index.store.IsOrdered)
    (named : ∀ searched, catalog.registry.isRegistered searched = true → searched ≠ "")
    (resolves : ∀ edge ∈ catalog.dependencies.edgesFrom entityType,
      catalog.registry.isRegistered edge.dependent = true →
        ∃ refs, host.resolve entityType id.value edge.relation = .ok refs)
    (serves : index.store.Serves fun known =>
      ∃ owner ∈ toldBy catalog host entityType id, owner.id = known)
    (steady : catalog.settings.eagerReindex = true →
      ∀ owner ∈ toldBy catalog host entityType id, catalog.IsSteady host owner.entityType) :
    let told := toldBy catalog host entityType id
    let result := onChange catalog host ⟨kind, entityType, id.value⟩ index
    (∃ failure, result.1 = .error failure ∧ EndsAmong catalog host told failure) ∨
      Reaches catalog host told index.store result.1 result.2.store := by
  intro told result
  have visits := isVisiting_onChange stays named resolves steady
  have accepts : ∀ owner ∈ told, index.store.Accepts owner.id :=
    fun owner member => serves.accepts owner.id ⟨owner, member, rfl⟩
  rcases visits serves.opened accepts (runs_self _ index) with ended | ⟨⟨_, returned⟩, -, visited⟩
  · exact Or.inl ended
  · have lists : index.store.Lists index.store.entries := ⟨ordered, rfl⟩
    have after := visited index.store.entries lists
    have found : result.2.store.find? =
        Listing.tended (notified catalog host) told index.store.find? := by
      rw [funext after.find?_eq, Listing.find?_tend (isSettling_notified catalog host)
        lists.owners_nodup, ← funext lists.find?_eq]
    refine Or.inr ⟨returned, fun owner => by rw [found]; rfl, ?_⟩
    rw [after.entries, found, Listing.tend_eq (isSettling_notified catalog host) lists.owners_nodup,
      ← funext lists.find?_eq]

/-- Users are searched by their names, posts and notes by their titles. All three depend on users,
as do tags, which are not searched. Entries are built at once. -/
def household : Catalog where
  settings := { (default : Settings) with eagerReindex := true }
  registry :=
    let named (name : String) : Definition :=
      ⟨true, .ofList [(name, ⟨.extractor (.requiredText name), true⟩)]⟩
    ⟨true, .ofList [("user", named "name"), ("post", named "title"), ("note", named "title")]⟩
  dependencies := .ofEdges [⟨"post", "user", "posts"⟩, ⟨"user", "user", "friends"⟩,
    ⟨"tag", "user", "tags"⟩, ⟨"note", "user", "notes"⟩]

/-- The first user has two posts, of which the second cannot be fetched, a friend, a tag, and a note
without a text for a title. -/
def family : Host :=
  let ofUser (entityType : String) (id : Int) (name : String) (value : Value) :
      (String × Key) × HostRecord :=
    ((entityType, .int id), ⟨.int id, .ofList [("user", .int 1), (name, value)]⟩)
  { Host.empty with
    records := .ofList [(("user", .int 1), ⟨.int 1, .ofList [("name", .str "needle")]⟩),
      ofUser "user" 2 "name" (.str "thread"), ofUser "post" 7 "title" (.str "needle"),
      ofUser "post" 8 "title" (.str "needle"), ofUser "tag" 4 "title" (.str "needle"),
      ofUser "note" 3 "title" (.int 7)]
    relations := .ofList [(("user", "posts"), ⟨"post", "user", .hasMany⟩),
      (("user", "friends"), ⟨"user", "user", .hasMany⟩),
      (("user", "tags"), ⟨"tag", "user", .hasMany⟩),
      (("user", "notes"), ⟨"note", "user", .hasMany⟩)]
    outage := ⟨[("post", .int 8)], [], []⟩ }

/-- Fresh entries of the user, of both posts but the first, of the note, and of a post that is not
of the user. -/
def settledFamily : Index :=
  { (default : Index) with
    store := .memory ⟨.ofList [(⟨"post", .int 9⟩, .ofTexts ⟨"thread", .empty⟩),
      (⟨"note", .int 3⟩, .ofTexts ⟨"thread", .empty⟩),
      (⟨"post", .int 8⟩, .ofTexts ⟨"thread", .empty⟩),
      (⟨"user", .int 1⟩, .ofTexts ⟨"thread", .empty⟩)]⟩ }

/-- The user, one of its posts and its friend are built anew, the other post and the note are stale
with the text that they had, and the post of another user is as it was. -/
theorem notification_reaches_family :
    let told : List Ref :=
      [⟨"user", .int 1⟩, ⟨"post", .int 7⟩, ⟨"post", .int 8⟩, ⟨"user", .int 2⟩, ⟨"note", .int 3⟩]
    let result := onChange household family ⟨.update, "user", .int 1⟩ settledFamily
    Reaches household family told settledFamily.store result.1 result.2.store ∧
      (result.2.store.entries.map fun entry =>
          (entry.owner, entry.content.fullText, entry.content.stale)) =
        [(⟨"post", .int 9⟩, "thread", false), (⟨"note", .int 3⟩, "thread", true),
          (⟨"post", .int 8⟩, "thread", true), (⟨"user", .int 1⟩, "needle", false),
          (⟨"post", .int 7⟩, "needle", false), (⟨"user", .int 2⟩, "thread", false)] := by
  intro told result
  have isTold : toldBy household family "user" (.int 1) = told := by decide +kernel
  have returned : result.1.isOk = true := by decide +kernel
  have whole := @notification_reaches household family "user" (.int 1) .update (by decide)
    settledFamily trivial ?_ ?_ ⟨rfl, fun _ _ => trivial⟩ ?_
  · rw [isTold] at whole
    rcases whole with ⟨failure, failed, -⟩ | reaches
    · rw [show result.1 = .error failure from failed] at returned
      cases returned
    · exact ⟨reaches, by decide +kernel⟩
  · rintro searched registered rfl
    exact absurd registered (by decide +kernel)
  · intro edge member _
    have resolved : ((household.dependencies.edgesFrom "user").all fun edge =>
        (family.resolve "user" (.int 1) edge.relation).isOk) = true := by decide +kernel
    have isOk := List.all_eq_true.1 resolved edge member
    cases outcome : family.resolve "user" (.int 1) edge.relation with
    | ok refs => exact ⟨refs, outcome⟩
    | error failure =>
        rw [outcome] at isOk
        cases isOk
  · intro _ owner member
    have rows : ∃ name, (household.registry.get owner.entityType).fields.rows =
        [(name, ⟨.extractor (.requiredText name), true⟩)] := by
      rw [isTold] at member
      simp only [told, List.mem_cons, List.not_mem_nil, or_false] at member
      rcases member with rfl | rfl | rfl | rfl | rfl
      · exact ⟨"name", rfl⟩
      · exact ⟨"title", rfl⟩
      · exact ⟨"title", rfl⟩
      · exact ⟨"name", rfl⟩
      · exact ⟨"title", rfl⟩
    obtain ⟨name, rows⟩ := rows
    refine Catalog.isSteady_of_texts fun row isField => ⟨name, ?_⟩
    rw [rows, List.mem_singleton] at isField
    rw [isField]

end Owners

end Index

end ShadowIndex
