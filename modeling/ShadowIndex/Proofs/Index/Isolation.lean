import ShadowIndex.Proofs.Index.OwnFields
import ShadowIndex.Proofs.Index.Returning
import ShadowIndex.Proofs.Query.Canonical
import ShadowIndex.Proofs.Text.Folding

/-!
Contract: records that cannot be indexed, and the searches that meet them.

Owns:
- `Index.liveOrKept`, the entry by which a candidate is found where builds may fail;
- a candidate whose id the store cannot hold fails each search that looks at it
  (`freshEntries_refused`); any other failing candidate excludes only itself
  (`Index.search_isolates`).

Does not own: which entries are true.
-/

set_option autoImplicit false

namespace ShadowIndex

/-! ## Queries that match nothing -/

/-- What is looked for in the full text is not empty. -/
theorem Query.nonempty_of_plain {text : String} {literal : Literal}
    (member : .plain literal ∈ (parse text).terms) : literal.text.toList ≠ [] := by
  have shaped := (isCanonical_parse text).shaped
  generalize (parse text).terms = terms at member shaped
  induction terms with
  | nil => cases member
  | cons term rest inductionHypothesis =>
      obtain ⟨first, others⟩ := shaped
      rcases List.mem_cons.1 member with rfl | later
      · rcases first with closed | ⟨-, unclosed⟩
        · cases closed with
          | word bare unsplit => exact bare.nonempty
          | phrase nonempty isPhrase => exact nonempty
        · cases unclosed with
          | word unclosed =>
              obtain ⟨front, inside, -, -, whole, -⟩ := unclosed
              simp [Literal.text, whole]
      · exact inductionHypothesis later others

namespace Definition

variable {definition : Definition} {entry : Entry} {text : String}

theorem resolve_of_isEmpty (empty : definition.isEmpty = true) (qualifier : String) :
    definition.resolve qualifier = none := by
  have noRows : definition.fields.rows = [] := by
    simpa [isEmpty, Table.isEmpty] using empty
  simp [resolve, Table.find?, noRows]

/-- A query that is answered without a look at entries matches no entry that could be looked at. -/
theorem accepts_of_not_asked (settled : definition.asks (Query.parse text) = false)
    (notBlank : (Query.parse text).isBlank = false)
    (bare : definition.isEmpty = true → entry.content.fullText = "") :
    definition.accepts (Query.parse text) entry = false := by
  by_cases empty : definition.isEmpty = true
  · -- There is a term, and a type without fields has nothing that it could match.
    obtain ⟨term, member⟩ : ∃ term, term ∈ (Query.parse text).terms :=
      List.exists_mem_of_ne_nil _ (by simpa [Query.isBlank] using notBlank)
    refine List.all_eq_false.2 ⟨term, member, ?_⟩
    cases term with
    | plain literal =>
        intro found
        rw [matchesTerm, bare empty] at found
        have isEmpty := List.infix_nil.1 ((Text.contains_iff "" literal.text).1 found)
        exact Text.fold_ne_nil (Query.nonempty_of_plain member) isEmpty
    | qualified field literal => simp [matchesTerm, resolve_of_isEmpty empty]
  · obtain ⟨name, isQualifier, unknown⟩ : ∃ name ∈ (Query.parse text).qualifiers,
        definition.knows name = false := by
      simpa [asks, notBlank, empty] using settled
    obtain ⟨term, member, isName⟩ := List.mem_filterMap.1 ((mem_distinct_iff _ _).1 isQualifier)
    refine List.all_eq_false.2 ⟨term, member, ?_⟩
    cases term with
    | plain literal => cases isName
    | qualified field literal =>
        cases isName
        have unresolved : definition.resolve name = none := by simpa [knows] using unknown
        simp [matchesTerm, unresolved]

end Definition

/-- Without fields, records have no text. -/
theorem Catalog.Builds.fullText_of_isEmpty {catalog : Catalog} {host : Host} {owner : Ref}
    {entry : Entry} (builds : catalog.Builds host owner entry)
    (empty : (catalog.registry.get owner.entityType).isEmpty = true) :
    entry.content.fullText = "" := by
  have noRows : (catalog.registry.get owner.entityType).fields.rows = [] := by
    simpa [Definition.isEmpty, Table.isEmpty] using empty
  obtain ⟨streams, built⟩ := builds
  rw [liveEntry_source] at built
  split at built
  · cases built
  · cases built
  · simp only [Registry.build, noRows, Action.each, Action.bind_apply, Action.pure_apply,
      Except.ok.injEq, Option.some.injEq] at built
    rw [← built]
    rfl

/-! ## Ids that the store cannot hold -/

namespace Index

variable {catalog : Catalog} {host : Host} {entityType : String} {before after : Store}
  {ids : List Id}

theorem freshEntry_refused (opened : before.requireOpen = .ok ()) {id : Id}
    (refused : ¬ before.Accepts id) {outcome : Except Failure (Option Entry)}
    (runs : Runs (freshEntry catalog host entityType id.value) before outcome after) :
    outcome = .error .integerTooLarge := by
  rcases runs.bind_inv with ⟨stored, middle, looked, -⟩ | ⟨failure, rfl, looked⟩
  · have same := looked.query_inv.1
    rw [Store.get_refused opened refused] at same
    cases same
  · have same := looked.query_inv.1
    rw [Store.get_refused opened refused] at same
    cases same
    rfl

section Endless

variable (endless : catalog.NeverEnds host entityType)
include endless

/-- A search looks at candidates up to the first that the store cannot hold. -/
theorem each_freshEntry_refused (opened : before.requireOpen = .ok ())
    (refused : ∃ id ∈ ids, ¬ before.Accepts id) {outcome : Except Failure (List (Option Entry))}
    (runs : Runs (Action.each (fun id : Id => freshEntry catalog host entityType id.value) ids)
      before outcome after) : outcome = .error .integerTooLarge := by
  induction ids generalizing before outcome with
  | nil =>
      obtain ⟨id, member, -⟩ := refused
      cases member
  | cons id rest inductionHypothesis =>
      rcases runs.each_cons_inv with ⟨value, middle, first, others⟩ | ⟨failure, rfl, failed⟩
      · by_cases accepts : before.Accepts id
        · have kind := (freshEntry_returns endless opened accepts first).2
          have later : ∃ id ∈ rest, ¬ middle.Accepts id := by
            obtain ⟨other, member, isRefused⟩ := refused
            rcases List.mem_cons.1 member with rfl | isLater
            · exact absurd accepts isRefused
            · exact ⟨other, isLater, mt (Store.accepts_of_kind kind.symm) isRefused⟩
          have openedLater := (Store.requireOpen_of_kind kind).trans opened
          rcases others with ⟨values, -, ran⟩ | ⟨failure, rfl, ran⟩
          · cases inductionHypothesis openedLater later ran
          · cases inductionHypothesis openedLater later ran
            rfl
        · cases freshEntry_refused opened accepts first
      · by_cases accepts : before.Accepts id
        · obtain ⟨⟨fresh, impossible⟩, -⟩ := freshEntry_returns endless opened accepts failed
          cases impossible
        · cases freshEntry_refused opened accepts failed
          rfl

theorem freshEntries_refused (proper : before.IsProper)
    (refused : ∃ id ∈ ids, ¬ before.Accepts id) {outcome : Except Failure (List (Option Entry))}
    (runs : Runs (freshEntries catalog host entityType (ids.map Id.value)) before outcome after) :
    outcome = .error .integerTooLarge := by
  unfold freshEntries at runs
  rw [each_map] at runs
  split at runs
  · have serves : before.Serves fun id => (before.find? ⟨entityType, id⟩).isSome :=
      ⟨proper.opened, fun id present => proper.stored ⟨entityType, id⟩ present⟩
    rcases runs.bind_inv with ⟨report, middle, batch, rest⟩ | ⟨failure, -, batch⟩
    · have kind := (reindexAll_returns endless serves batch).2
      obtain ⟨id, member, isRefused⟩ := refused
      exact each_freshEntry_refused endless ((Store.requireOpen_of_kind kind).trans proper.opened)
        ⟨id, member, mt (Store.accepts_of_kind kind.symm) isRefused⟩ rest
    · obtain ⟨⟨report, impossible⟩, -⟩ := reindexAll_returns endless serves batch
      cases impossible
  · exact each_freshEntry_refused endless proper.opened refused runs

end Endless

/-! ## Entries by which candidates are found -/

/-- The entry by which a candidate is found or not: the one that it has now, or, where that cannot
be had, the stored one if it looks fresh. -/
def liveOrKept (result : Except Failure (Option Entry)) (held : Option Entry) : Option Entry :=
  match result with
  | .ok live? => live?
  | .error _ => held.filter fun entry => !entry.content.stale

/-- Where stored entries that look fresh are true, they can be served instead of live ones. -/
theorem effective_eq_liveOrKept {result : Except Failure (Option Entry)} {held : Option Entry}
    (agrees : ∀ entry live?, held = some entry → entry.content.stale = false →
      result = .ok live? → live? = some entry) :
    effective true result held = liveOrKept result held := by
  cases result with
  | error failure =>
      cases held with
      | none => rfl
      | some entry => cases fresh : entry.content.stale <;>
          simp [effective, liveOrKept, afterRebuild, fresh, Option.filter]
  | ok live? =>
      cases held with
      | none => rfl
      | some entry =>
          cases fresh : entry.content.stale with
          | true => simp [effective, liveOrKept, afterRebuild, fresh]
          | false =>
              have same := agrees entry live? rfl fresh rfl
              simp [effective, liveOrKept, fresh, same]

section Reading

variable (own : catalog.ReadsOwn entityType) {id : Id} {held : Option Entry}
variable (sound : catalog.Sound host.calm ⟨entityType, id⟩ held)
include own sound

/-- An entry that is true once nothing fails is the live one, if there is a live one. -/
theorem live_of_sound_calm (steady : catalog.IsSteady host entityType) {entry : Entry}
    {live? : Option Entry} (isHeld : held = some entry) (fresh : entry.content.stale = false)
    (live : catalog.live host ⟨entityType, id⟩ = .ok live?) : live? = some entry := by
  obtain ⟨snapshot?, looked⟩ := Catalog.snapshot_of_liveEntry live
  have builds : catalog.Builds host ⟨entityType, id⟩ entry :=
    (sound entry isHeld fresh).of_calm own looked
  rw [(Catalog.builds_iff steady id entry).1 builds] at live
  exact (Except.ok.inj live).symm

/-- The entry by which a candidate is found is one that a build gives, now or once nothing fails. -/
theorem builds_of_liveOrKept {entry : Entry}
    (found : liveOrKept (catalog.live host ⟨entityType, id⟩) held = some entry) :
    catalog.Builds host.calm ⟨entityType, id⟩ entry := by
  cases result : catalog.live host ⟨entityType, id⟩ with
  | ok live? =>
      rw [result] at found
      have isLive : live? = some entry := found
      subst isLive
      have builds : catalog.Builds host ⟨entityType, id⟩ entry := ⟨.none, result⟩
      exact builds.calm own
  | error failure =>
      rw [result] at found
      obtain ⟨isHeld, fresh⟩ := Option.filter_eq_some_iff.1 found
      exact sound entry isHeld (by simpa using fresh)

end Reading

/-! ## Searches -/

/-- Whether a candidate is found where builds may fail. -/
def isFound (catalog : Catalog) (host : Host) (entityType : String) (query : Query) (store : Store)
    (id : Id) : Bool :=
  (liveOrKept (catalog.live host ⟨entityType, id⟩) (store.find? ⟨entityType, id⟩)).any
    ((catalog.registry.get entityType).accepts query)

/-- The answer to a query that is not blank. A candidate that cannot be built excludes itself, unless
its stored entry looks fresh; only one whose id the store cannot hold fails the search, if it has
to look at entries. -/
structure Isolates (catalog : Catalog) (host : Host) (entityType : String) (query : Query)
    (candidates : List Id) (store : Store) (outcome : Except Failure (List Value)) : Prop where
  returns : ((catalog.registry.get entityType).asks query = true →
      ∀ id ∈ candidates, store.Accepts id) →
    outcome = .ok
      ((candidates.filter (isFound catalog host entityType query store)).map Id.value)
  refused : (catalog.registry.get entityType).asks query = true →
    (∃ id ∈ candidates, ¬ store.Accepts id) → outcome = .error .integerTooLarge

section Search

variable {scope : Scope} {index : Index} {text : Option String}
variable (own : catalog.ReadsOwn entityType)
variable (sound : ∀ owner, owner.entityType = entityType →
  catalog.Sound host.calm owner (index.store.find? owner))
include own sound

/-- A query that is answered without a look at entries finds no one. -/
theorem filter_isFound_of_not_asked
    (settled : (catalog.registry.get entityType).asks (Query.parse (text.getD "")) = false)
    (notBlank : (Query.parse (text.getD "")).isBlank = false) :
    ids.filter (isFound catalog host entityType (Query.parse (text.getD "")) index.store) = [] := by
  refine List.filter_eq_nil_iff.2 fun id _ found => ?_
  obtain ⟨entry, isEntry, accepted⟩ := (Option.any_eq_true _ _).1 found
  have builds := builds_of_liveOrKept own (sound ⟨entityType, id⟩ rfl) isEntry
  rw [Definition.accepts_of_not_asked settled notBlank builds.fullText_of_isEmpty] at accepted
  cases accepted

/-- A search goes by stored entries that look fresh as if they were live. -/
theorem isResult_eq_isFound (steady : catalog.IsSteady host entityType)
    (rebuilds : catalog.settings.reindexOnSearch = true) (query : Query) :
    isResult catalog host entityType query index.store.find? =
      isFound catalog host entityType query index.store := by
  funext id
  have sameEntry := effective_eq_liveOrKept fun entry live? isHeld fresh live =>
    live_of_sound_calm own (sound ⟨entityType, id⟩ rfl) steady isHeld fresh live
  rw [isResult, isFound, rebuilds, sameEntry]

theorem search_isolates (steady : catalog.IsSteady host entityType)
    (endless : catalog.NeverEnds host entityType)
    (rebuilds : catalog.settings.reindexOnSearch = true) (proper : index.store.IsProper)
    (listed : host.candidates entityType scope = .ok (ids.map Id.value))
    (notBlank : (Query.parse (text.getD "")).isBlank = false) :
    Isolates catalog host entityType (Query.parse (text.getD "")) ids index.store
      (search catalog host entityType text scope index).1 where
  returns := by
    intro accepts
    by_cases asked : (catalog.registry.get entityType).asks (Query.parse (text.getD "")) = true
    · have serves : index.store.Serves fun id =>
          (index.store.find? ⟨entityType, id⟩).isSome ∨ id ∈ ids :=
        ⟨proper.opened, fun id known =>
          known.elim (proper.stored ⟨entityType, id⟩) (accepts asked id)⟩
      have answers := search_answers text scope index listed steady serves
      simp only [Definition.asks, Bool.and_eq_true, Bool.not_eq_true', List.all_eq_true] at asked
      rcases answers.results notBlank asked.1.2 asked.2 with ⟨failure, -, -, ends⟩ | ⟨same, -, -⟩
      · obtain ⟨ending, id, live⟩ := ends
        rw [endless id .none failure live] at ending
        cases ending
      · rw [same, isResult_eq_isFound own sound steady rebuilds]
    · have settled : (catalog.registry.get entityType).asks (Query.parse (text.getD "")) = false := by
        simpa using asked
      rw [search_of_listed listed, if_neg asked, notBlank,
        filter_isFound_of_not_asked own sound settled notBlank]
      rfl
  refused := by
    intro asked refused
    have looked := freshEntries_refused endless proper refused
      (runs_self (freshEntries catalog host entityType (ids.map Id.value)) index)
    rw [search_of_error listed looked, if_pos asked]

end Search

end Index

end ShadowIndex
