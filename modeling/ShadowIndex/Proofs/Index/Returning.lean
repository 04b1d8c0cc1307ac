import ShadowIndex.Proofs.Index.Evaluation

/-!
Contract: searches that return, whichever records cannot be fetched or built.

Owns:
- `Catalog.NeverEnds`, types of which no build ends the program;
- `Index.search_returns`: where no build ends the program, each search over a store that serves
  returns, also with fields that can be read only once.

Does not own: what is returned.
-/

set_option autoImplicit false

namespace ShadowIndex

/-- Whether no build of a record of a type fails in a way that ends the program. -/
def Catalog.NeverEnds (catalog : Catalog) (host : Host) (entityType : String) : Prop :=
  ∀ (id : Id) streams failure,
    (catalog.liveEntry host entityType id.value streams).1 = .error failure →
      failure.isEnding = false

/-- A repetition fails only where one of its members does. -/
theorem Action.exists_of_each_error {σ α β : Type} {action : α → Action σ β} {items : List α}
    {state : σ} {failure : Failure} (failed : (each action items state).1 = .error failure) :
    ∃ item ∈ items, ∃ start, (action item start).1 = .error failure := by
  induction items generalizing state with
  | nil => cases failed
  | cons item rest inductionHypothesis =>
      rw [each, bind_apply] at failed
      cases first : action item state with
      | mk outcome middle =>
          cases outcome with
          | error cause =>
              rw [first] at failed
              cases failed
              exact ⟨item, by simp, state, by rw [first]⟩
          | ok value =>
              simp only [first, bind_apply] at failed
              cases others : each action rest middle with
              | mk outcome last =>
                  cases outcome with
                  | ok values =>
                      rw [others] at failed
                      cases failed
                  | error cause =>
                      rw [others] at failed
                      cases failed
                      obtain ⟨other, member, fails⟩ := inductionHypothesis (by rw [others])
                      exact ⟨other, by simp [member], fails⟩

/-- Texts cannot be built only where the value of a field cannot be read. -/
theorem Registry.exists_of_build_error {ρ : Type} {registry : Registry} {view : RecordView ρ}
    {entityType : String} {record : ρ} {streams : Streams} {failure : Failure}
    (failed : (registry.build view entityType record streams).1 = .error failure) :
    ∃ row ∈ (registry.get entityType).fields.rows,
      registry.extractValue view record row.2 = .error failure := by
  have fails : (Action.each (registry.extractNamed view record)
      (registry.get entityType).fields.rows streams).1 = .error failure := by
    rw [build, Action.bind_apply] at failed
    split at failed
    · cases failed
    · rename_i extracts
      cases failed
      rw [extracts]
  obtain ⟨row, member, start, unread⟩ := Action.exists_of_each_error fails
  refine ⟨row, member, ?_⟩
  cases value : registry.extractValue view record row.2 with
  | error cause =>
      simp only [extractNamed, extract_of_view, Action.bind_apply, Action.lift, value] at unread
      cases unread
      rfl
  | ok given =>
      simp only [extractNamed, extract_of_view, Action.bind_apply, Action.lift, value,
        Value.drawFragments, Action.pure_apply] at unread
      cases unread

/-- No build ends the program where no field of a record does. -/
theorem Catalog.neverEnds_of_values {catalog : Catalog} {host : Host} {entityType : String}
    (handled : ∀ snapshot, ∀ row ∈ (catalog.registry.get entityType).fields.rows, ∀ failure,
      catalog.registry.extractValue host.view snapshot row.2 = .error failure →
        failure.isEnding = false) : catalog.NeverEnds host entityType := by
  intro id streams failure failed
  rw [liveEntry_source] at failed
  split at failed
  · cases failed
    rfl
  · cases failed
  · rename_i snapshot _
    split at failed
    · rename_i cause after built
      obtain ⟨row, member, unread⟩ :=
        Registry.exists_of_build_error (by rw [built] : (_ : Except Failure SearchTexts × Streams).1 =
          .error cause)
      have goesOn := handled snapshot row member cause unread
      simp only [rebuildFailure, goesOn, Bool.false_eq_true, if_false] at failed
      cases failed
      rfl
    · cases failed

namespace Index

variable {catalog : Catalog} {host : Host} {entityType : String} {before after : Store}

/-- A repetition whose members return and leave a store of the same kind. -/
theorem Runs.each_returns {α β : Type} {action : α → Action Index β} {items : List α}
    {outcome : Except Failure (List β)}
    (step : ∀ item ∈ items, ∀ {start finish : Store} {result : Except Failure β},
      start.kind = before.kind → Runs (action item) start result finish →
        (∃ value, result = .ok value) ∧ finish.kind = start.kind)
    (runs : Runs (Action.each action items) before outcome after) :
    (∃ values, outcome = .ok values) ∧ after.kind = before.kind := by
  induction items generalizing before outcome with
  | nil =>
      obtain ⟨rfl, rfl⟩ := runs.each_nil_inv
      exact ⟨⟨[], rfl⟩, rfl⟩
  | cons item rest inductionHypothesis =>
      rcases runs.each_cons_inv with ⟨value, middle, first, others⟩ | ⟨failure, -, failed⟩
      · obtain ⟨-, kind⟩ := step item (by simp) rfl first
        have later : ∀ other ∈ rest, ∀ {start finish : Store} {result : Except Failure β},
            start.kind = middle.kind → Runs (action other) start result finish →
              (∃ value, result = .ok value) ∧ finish.kind = start.kind :=
          fun other member {_ _ _} sameKind =>
            step other (by simp [member]) (sameKind.trans kind)
        rcases others with ⟨values, rfl, ran⟩ | ⟨failure, -, ran⟩
        · exact ⟨⟨value :: values, rfl⟩, (inductionHypothesis later ran).2.trans kind⟩
        · obtain ⟨⟨values, impossible⟩, -⟩ := inductionHypothesis later ran
          cases impossible
      · obtain ⟨⟨value, impossible⟩, -⟩ := step item (by simp) rfl failed
        cases impossible

section Steps

variable (endless : catalog.NeverEnds host entityType)
include endless

theorem freshEntry_returns (opened : before.requireOpen = .ok ()) {id : Id}
    (accepts : before.Accepts id) {outcome : Except Failure (Option Entry)}
    (runs : Runs (freshEntry catalog host entityType id.value) before outcome after) :
    (∃ fresh, outcome = .ok fresh) ∧ after.kind = before.kind := by
  obtain ⟨result, ⟨streams, built⟩, rfl, becomes⟩ := freshEntry_served_inv opened accepts runs
  refine ⟨?_, becomes.kind⟩
  rcases served_cases catalog.settings.reindexOnSearch result (before.find? ⟨entityType, id⟩) with
    ⟨failure, -, -, rfl, unhandled⟩ | same
  · have ending := Catalog.isEnding_of_liveEntry built.symm unhandled
    rw [endless id streams failure built.symm] at ending
    cases ending
  · exact ⟨_, same⟩

theorem refresh_returns (opened : before.requireOpen = .ok ()) {id : Id}
    (accepts : before.Accepts id) {outcome : Except Failure (Id × Outcome)}
    (runs : Runs (refresh catalog host entityType id) before outcome after) :
    (∃ member, outcome = .ok member) ∧ after.kind = before.kind := by
  obtain ⟨result, ⟨streams, built⟩, placed, known⟩ := refresh_inv opened accepts runs
  refine ⟨?_, placed.kind⟩
  rcases memberOutcome_cases result (before.find? ⟨entityType, id⟩) with
    ⟨gives, -⟩ | ⟨failure, -, rfl, unhandled⟩
  · exact ⟨_, by rw [known, gives]; rfl⟩
  · have ending := Catalog.isEnding_of_liveEntry built.symm unhandled
    rw [endless id streams failure built.symm] at ending
    cases ending

/-- A batch returns. It rebuilds only owners that have entries. -/
theorem reindexAll_returns
    (serves : before.Serves fun id => (before.find? ⟨entityType, id⟩).isSome)
    {outcome : Except Failure Report}
    (runs : Runs (reindexAll catalog host entityType) before outcome after) :
    (∃ report, outcome = .ok report) ∧ after.kind = before.kind := by
  obtain ⟨listed, listing, isMember⟩ := Store.allStaleFor_eq_ok serves.opened entityType
  obtain ⟨members, ran, rfl⟩ := refreshAll_members_inv listing (refreshAll_of_reindexAll runs)
  obtain ⟨⟨values, rfl⟩, kind⟩ := ran.each_returns fun id member {_ _ _} sameKind step => by
    obtain ⟨entry, found, -⟩ := (Option.any_eq_true _ _).1 ((isMember id).1 member)
    exact refresh_returns endless ((Store.requireOpen_of_kind sameKind).trans serves.opened)
      (Store.accepts_of_kind sameKind (serves.accepts id (by simp [found]))) step
  exact ⟨⟨_, rfl⟩, kind⟩

variable {ids : List Id} {scope : Scope} {index : Index}

/-- Entries can be had for candidates that the store can hold. -/
theorem freshEntries_returns
    (serves : before.Serves fun id => (before.find? ⟨entityType, id⟩).isSome ∨ id ∈ ids)
    {outcome : Except Failure (List (Option Entry))}
    (runs : Runs (freshEntries catalog host entityType (ids.map Id.value)) before outcome after) :
    ∃ entries, outcome = .ok entries := by
  have each {start finish : Store} {result : Except Failure (List (Option Entry))}
      (kind : start.kind = before.kind)
      (ran : Runs (Action.each (freshEntry catalog host entityType) (ids.map Id.value)) start result
        finish) : ∃ entries, result = .ok entries := by
    rw [each_map] at ran
    refine (ran.each_returns fun id member {_ _ _} sameKind step => ?_).1
    exact freshEntry_returns endless
      ((Store.requireOpen_of_kind (sameKind.trans kind)).trans serves.opened)
      (Store.accepts_of_kind (sameKind.trans kind) (serves.accepts id (Or.inr member))) step
  have servesStored : before.Serves fun id => (before.find? ⟨entityType, id⟩).isSome :=
    ⟨serves.opened, fun id held => serves.accepts id (Or.inl held)⟩
  unfold freshEntries at runs
  split at runs
  · rcases runs.bind_inv with ⟨report, middle, batch, rest⟩ | ⟨failure, -, batch⟩
    · exact each (reindexAll_returns endless servesStored batch).2 rest
    · obtain ⟨⟨report, impossible⟩, -⟩ := reindexAll_returns endless servesStored batch
      cases impossible
  · exact each rfl runs

/-- A search over a store that serves returns. -/
theorem search_returns (listed : host.candidates entityType scope = .ok (ids.map Id.value))
    (serves : index.store.Serves fun id =>
      (index.store.find? ⟨entityType, id⟩).isSome ∨ id ∈ ids) (text : Option String) :
    ∃ found, (search catalog host entityType text scope index).1 = .ok found := by
  obtain ⟨entries, looked⟩ := freshEntries_returns endless serves
    (runs_self (freshEntries catalog host entityType (ids.map Id.value)) index)
  exact ⟨_, search_of_ok listed looked text⟩

end Steps

end Index

end ShadowIndex
