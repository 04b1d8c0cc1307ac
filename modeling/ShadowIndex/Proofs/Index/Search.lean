import ShadowIndex.Index.Search
import ShadowIndex.Proofs.Index.Batch
import ShadowIndex.Proofs.Index.Quiet

/-!
Contract: searches are one filter over the candidates of the host.

Owns:
- `Index.effective`, the entry that a search goes by, and `Index.afterSearch`, the entries that it
  leaves;
- `Index.Answers`, the answer and the entries left, for any entries, fresh, stale, missing or
  without a record.

Does not own: which terms an entry matches.
-/

set_option autoImplicit false

namespace ShadowIndex.Index

/-! ## Entries that a search goes by -/

/-- The entry that a search goes by: the stored one if it is up to date; else, where stale entries
are rebuilt, the one that is built now. -/
def effective (rebuilds : Bool) (result : Except Failure (Option Entry)) (held : Option Entry) :
    Option Entry :=
  if held.any fun entry => !entry.content.stale then held
  else if rebuilds then afterRebuild result none
  else none

/-- What a search leaves of the entry of a record that it looks at: one that is up to date stays;
else, where stale entries are rebuilt, the rebuild decides. -/
def attended (rebuilds : Bool) (result : Except Failure (Option Entry)) (held : Option Entry) :
    Option Entry :=
  if held.any fun entry => !entry.content.stale then held
  else if rebuilds then afterRebuild result held
  else held

/-- The outcome of a look at a record: the entry that the search goes by, unless a build fails in a
way that no search handles. -/
def served (rebuilds : Bool) (result : Except Failure (Option Entry)) (held : Option Entry) :
    Except Failure (Option Entry) :=
  if held.any fun entry => !entry.content.stale then .ok held
  else if rebuilds then
    match result with
    | .ok rebuilt? => .ok rebuilt?
    | .error failure => if isRebuildFailure failure then .ok none else .error failure
  else .ok none

/-- Whether a candidate is a result: the entry that the search goes by matches every term. -/
def isResult (catalog : Catalog) (host : Host) (entityType : String) (query : Query)
    (view : Ref → Option Entry) (id : Id) : Bool :=
  (effective catalog.settings.reindexOnSearch (catalog.live host ⟨entityType, id⟩)
    (view ⟨entityType, id⟩)).any ((catalog.registry.get entityType).accepts query)

/-- The entries after a search. Where stale entries are rebuilt, all stale entries of the type are
looked at, and all candidates. -/
def afterSearch (catalog : Catalog) (host : Host) (entityType : String) (candidates : List Id)
    (view : Ref → Option Entry) : Ref → Option Entry := fun owner =>
  if owner.entityType = entityType ∧ ((view owner).isSome ∨ owner.id ∈ candidates) then
    attended catalog.settings.reindexOnSearch (catalog.live host owner) (view owner)
  else view owner

section Entries

variable {result : Except Failure (Option Entry)}

theorem effective_attended
    (fresh : ∀ entry, result = .ok (some entry) → entry.content.stale = false) (rebuilds : Bool)
    (held : Option Entry) :
    effective rebuilds result (attended rebuilds result held) = effective rebuilds result held := by
  by_cases settled : held.any (fun entry => !entry.content.stale) = true
  · simp [effective, attended, settled]
  · cases rebuilds with
    | false => simp [effective, attended, settled]
    | true =>
        match result, fresh with
        | .error failure, _ => simp [effective, attended, settled, afterRebuild]
        | .ok none, _ => simp [effective, attended, settled, afterRebuild]
        | .ok (some entry), fresh =>
            simp [effective, attended, settled, afterRebuild, fresh entry rfl]

theorem attended_attended
    (fresh : ∀ entry, result = .ok (some entry) → entry.content.stale = false) (rebuilds : Bool)
    (held : Option Entry) :
    attended rebuilds result (attended rebuilds result held) = attended rebuilds result held := by
  by_cases settled : held.any (fun entry => !entry.content.stale) = true
  · simp [attended, settled]
  · cases rebuilds with
    | false => simp [attended, settled]
    | true =>
        match result, fresh with
        | .error failure, _ => simp [attended, settled, afterRebuild]
        | .ok none, _ => simp [attended, settled, afterRebuild]
        | .ok (some entry), fresh => simp [attended, settled, afterRebuild, fresh entry rfl]

theorem served_cases (rebuilds : Bool) (result : Except Failure (Option Entry))
    (held : Option Entry) :
    (∃ failure, served rebuilds result held = .error failure ∧ rebuilds = true ∧
        result = .error failure ∧ isRebuildFailure failure = false) ∨
      served rebuilds result held = .ok (effective rebuilds result held) := by
  by_cases settled : held.any (fun entry => !entry.content.stale) = true
  · simp [served, effective, settled]
  · cases rebuilds with
    | false => simp [served, effective, settled]
    | true =>
        match result with
        | .ok rebuilt? => simp [served, effective, settled, afterRebuild]
        | .error failure =>
            by_cases handled : isRebuildFailure failure = true
            · simp [served, effective, settled, afterRebuild, handled]
            · exact Or.inl ⟨failure, by simp [served, settled, handled], rfl, rfl,
                by simpa using handled⟩

/-- A second look at a record has the outcome of the first. -/
theorem served_attended
    (fresh : ∀ entry, result = .ok (some entry) → entry.content.stale = false) (rebuilds : Bool)
    (held : Option Entry) :
    served rebuilds result (attended rebuilds result held) = served rebuilds result held := by
  by_cases settled : held.any (fun entry => !entry.content.stale) = true
  · simp [served, attended, settled]
  · cases rebuilds with
    | false => simp [served, attended, settled]
    | true =>
        match result, fresh with
        | .error failure, _ => simp [served, attended, settled, afterRebuild]
        | .ok none, _ => simp [served, attended, settled, afterRebuild]
        | .ok (some entry), fresh => simp [served, attended, settled, afterRebuild, fresh entry rfl]

/-- A batch before a search does to a stored entry what the search would do to it. -/
theorem refreshed_eq_attended (held : Option Entry) :
    refreshed result held = if held.isSome then attended true result held else held := by
  cases held with
  | none => rfl
  | some entry => cases stale : entry.content.stale <;> simp [refreshed, attended, stale]

theorem attended_refreshed
    (fresh : ∀ entry, result = .ok (some entry) → entry.content.stale = false)
    (held : Option Entry) :
    attended true result (refreshed result held) = attended true result held := by
  rw [refreshed_eq_attended]
  cases held with
  | none => rfl
  | some entry => exact attended_attended fresh true (some entry)

theorem effective_refreshed
    (fresh : ∀ entry, result = .ok (some entry) → entry.content.stale = false)
    (held : Option Entry) :
    effective true result (refreshed result held) = effective true result held := by
  rw [refreshed_eq_attended]
  cases held with
  | none => rfl
  | some entry => exact effective_attended fresh true (some entry)

end Entries

/-! ## Candidates -/

variable {catalog : Catalog} {host : Host} {entityType : String} {before after : Store}

/-- A look at a candidate gives what is served of its entry, and leaves the entry attended. -/
theorem freshEntry_served_inv (opened : before.requireOpen = .ok ()) {id : Id}
    (accepts : before.Accepts id) {outcome : Except Failure (Option Entry)}
    (runs : Runs (freshEntry catalog host entityType id.value) before outcome after) :
    ∃ result, (∃ streams, result = (catalog.liveEntry host entityType id.value streams).1) ∧
      outcome = served catalog.settings.reindexOnSearch result (before.find? ⟨entityType, id⟩) ∧
      before.Becomes (Function.update before.find? ⟨entityType, id⟩
        (attended catalog.settings.reindexOnSearch result (before.find? ⟨entityType, id⟩)))
        after := by
  rcases runs.bind_inv with ⟨stored, middle, looked, rest⟩ | ⟨failure, -, looked⟩
  · obtain ⟨same, rfl⟩ := entry_inv opened accepts looked
    cases same
    by_cases settled :
        (middle.find? ⟨entityType, id⟩).any (fun entry => !entry.content.stale) = true
    · obtain ⟨entry, held, fresh⟩ := (Option.any_eq_true _ _).1 settled
      have kept : (some entry).filter (fun entry => !entry.content.stale) = some entry := by
        simpa [Option.filter] using fresh
      rw [held, kept] at rest
      obtain ⟨rfl, rfl⟩ := rest.pure_inv
      refine ⟨_, ⟨.none, rfl⟩, by simp [served, held, fresh],
        (Store.places_of_unchanged ?_).toBecomes⟩
      rw [attended, if_pos settled]
    · have dropped : (middle.find? ⟨entityType, id⟩).filter (fun entry => !entry.content.stale) =
          none := by
        cases held : middle.find? ⟨entityType, id⟩ with
        | none => rfl
        | some entry => simpa [held, Option.filter] using settled
      rw [dropped] at rest
      cases rebuilds : catalog.settings.reindexOnSearch with
      | false =>
          simp only [rebuilds, Bool.not_false, if_true] at rest
          obtain ⟨rfl, rfl⟩ := rest.pure_inv
          refine ⟨_, ⟨.none, rfl⟩, by simp [served, settled],
            (Store.places_of_unchanged ?_).toBecomes⟩
          simp [attended]
      | true =>
          simp only [rebuilds, Bool.not_true, Bool.false_eq_true, if_false] at rest
          rcases rest.bind_inv with ⟨result, last, tried, finish⟩ | ⟨failure, -, tried⟩
          · obtain ⟨inner, same, attempted⟩ := tried.attempt_inv
            cases same
            obtain ⟨built, placed⟩ := reindexOne_inv opened accepts attempted
            refine ⟨result, built, ?_⟩
            rw [attended, if_neg settled, if_pos rfl]
            cases result with
            | ok rebuilt? =>
                obtain ⟨rfl, rfl⟩ := finish.pure_inv
                exact ⟨by simp [served, settled], placed.toBecomes⟩
            | error failure =>
                by_cases handled : isRebuildFailure failure = true
                · simp only [handled, if_true] at finish
                  obtain ⟨rfl, rfl⟩ := (finish.bind_quiet_inv Runs.note_inv).pure_inv
                  exact ⟨by simp [served, settled, handled], placed.toBecomes⟩
                · simp only [handled, Bool.false_eq_true, if_false] at finish
                  obtain ⟨rfl, rfl⟩ := finish.fail_inv
                  exact ⟨by simp [served, settled, handled], placed.toBecomes⟩
          · obtain ⟨inner, same, -⟩ := tried.attempt_inv
            cases same
  · exact absurd (entry_inv opened accepts looked).1 (by simp)

/-- Where the fields of a type are steady, the outcome of a build is that of a build now. Where
stale entries are not rebuilt, there is no build. -/
theorem freshEntry_steady_inv
    (steady : catalog.settings.reindexOnSearch = true → catalog.IsSteady host entityType)
    (opened : before.requireOpen = .ok ()) {id : Id} (accepts : before.Accepts id)
    {outcome : Except Failure (Option Entry)}
    (runs : Runs (freshEntry catalog host entityType id.value) before outcome after) :
    outcome = served catalog.settings.reindexOnSearch (catalog.live host ⟨entityType, id⟩)
        (before.find? ⟨entityType, id⟩) ∧
      before.Becomes (Function.update before.find? ⟨entityType, id⟩
        (attended catalog.settings.reindexOnSearch (catalog.live host ⟨entityType, id⟩)
          (before.find? ⟨entityType, id⟩))) after := by
  obtain ⟨result, ⟨streams, built⟩, looked⟩ := freshEntry_served_inv opened accepts runs
  cases rebuilds : catalog.settings.reindexOnSearch with
  | true =>
      rw [Catalog.liveEntry_eq_live (steady rebuilds)] at built
      rwa [← built, ← rebuilds]
  | false =>
      rw [rebuilds] at looked
      simpa [served, attended] using looked

theorem freshEntry_inv (steady : catalog.IsSteady host entityType)
    (opened : before.requireOpen = .ok ()) {id : Id} (accepts : before.Accepts id)
    {outcome : Except Failure (Option Entry)}
    (runs : Runs (freshEntry catalog host entityType id.value) before outcome after) :
    (∃ failure, outcome = .error failure ∧ catalog.settings.reindexOnSearch = true ∧
        EndsIn catalog host entityType failure) ∨
      outcome = .ok (effective catalog.settings.reindexOnSearch
        (catalog.live host ⟨entityType, id⟩) (before.find? ⟨entityType, id⟩)) ∧
        before.Becomes (Function.update before.find? ⟨entityType, id⟩
          (attended catalog.settings.reindexOnSearch (catalog.live host ⟨entityType, id⟩)
            (before.find? ⟨entityType, id⟩))) after := by
  obtain ⟨rfl, becomes⟩ := freshEntry_steady_inv (fun _ => steady) opened accepts runs
  rcases served_cases catalog.settings.reindexOnSearch (catalog.live host ⟨entityType, id⟩)
      (before.find? ⟨entityType, id⟩) with ⟨failure, same, rebuilds, live, unhandled⟩ | same
  · exact Or.inl ⟨failure, same, rebuilds, Catalog.isEnding_of_liveEntry live unhandled, id, live⟩
  · exact Or.inr ⟨same, becomes⟩

theorem hit_inv (steady : catalog.IsSteady host entityType) (query : Query)
    (opened : before.requireOpen = .ok ()) {id : Id} (accepts : before.Accepts id)
    {outcome : Except Failure (Option Value)}
    (runs : Runs (hit catalog host entityType query id.value) before outcome after) :
    (∃ failure, outcome = .error failure ∧ catalog.settings.reindexOnSearch = true ∧
        EndsIn catalog host entityType failure) ∨
      (∃ value, outcome = .ok value ∧ value =
        if isResult catalog host entityType query before.find? id then some id.value else none) ∧
        before.Becomes (Function.update before.find? ⟨entityType, id⟩
          (attended catalog.settings.reindexOnSearch (catalog.live host ⟨entityType, id⟩)
            (before.find? ⟨entityType, id⟩))) after := by
  rcases runs.bind_inv with ⟨fresh, middle, looked, rest⟩ | ⟨failure, rfl, looked⟩
  · obtain ⟨rfl, rfl⟩ := rest.pure_inv
    rcases freshEntry_inv steady opened accepts looked with ⟨failure, impossible, -⟩ | ⟨same, becomes⟩
    · cases impossible
    · cases same
      exact Or.inr ⟨⟨_, rfl, rfl⟩, becomes⟩
  · rcases freshEntry_inv steady opened accepts looked with ⟨same, isSame, ends⟩ | ⟨impossible, -⟩
    · cases isSame
      exact Or.inl ⟨failure, rfl, ends⟩
    · cases impossible

/-- The results among values that were looked at one by one. -/
theorem filterMap_of_forall₂ {ids : List Id} {values : List (Option Value)} {test : Id → Bool}
    (each : List.Forall₂ (fun id value => value = if test id then some id.value else none)
      ids values) : values.filterMap id = (ids.filter test).map Id.value := by
  induction each with
  | nil => rfl
  | @cons first value rest values same _ inductionHypothesis =>
      subst same
      by_cases passes : test first = true
      · have kept : id (some first.value) = some first.value := rfl
        rw [if_pos passes, List.filterMap_cons_some kept, inductionHypothesis,
          List.filter_cons_of_pos passes, List.map_cons]
      · rw [if_neg passes, List.filterMap_cons_none rfl, inductionHypothesis,
          List.filter_cons_of_neg passes]

/-- The candidates that match, and the entries after all of them were looked at. -/
theorem hits_inv (steady : catalog.IsSteady host entityType) (query : Query)
    {candidates : List Id} (opened : before.requireOpen = .ok ())
    (accepts : ∀ id ∈ candidates, before.Accepts id) {outcome : Except Failure (List (Option Value))}
    (runs : Runs (Action.each (hit catalog host entityType query) (candidates.map Id.value)) before
      outcome after) :
    (∃ failure, outcome = .error failure ∧ catalog.settings.reindexOnSearch = true ∧
        EndsIn catalog host entityType failure) ∨
      (∃ values, outcome = .ok values ∧ values.filterMap id =
        (candidates.filter (isResult catalog host entityType query before.find?)).map Id.value) ∧
        before.Becomes (tending entityType candidates
          (fun owner => attended catalog.settings.reindexOnSearch (catalog.live host owner))
          before.find?) after := by
  rw [each_map] at runs
  have fresh (owner : Ref) (entry : Entry) (built : catalog.live host owner = .ok (some entry)) :=
    fresh_of_live built
  rcases Runs.each_inv
      (fun owner => attended catalog.settings.reindexOnSearch (catalog.live host owner))
      (fun id held value => value =
        if (effective catalog.settings.reindexOnSearch (catalog.live host ⟨entityType, id⟩)
          held).any ((catalog.registry.get entityType).accepts query) then some id.value else none)
      (fun failure => catalog.settings.reindexOnSearch = true ∧
        EndsIn catalog host entityType failure)
      (fun owner held => attended_attended (fresh owner) _ held)
      (fun id held value gives => by rwa [effective_attended (fresh ⟨entityType, id⟩)] at gives)
      (fun id member {_ _ _} sameKind step =>
        hit_inv steady query ((Store.requireOpen_of_kind sameKind).trans opened)
          (Store.accepts_of_kind sameKind (accepts id member)) step) runs with
    ended | ⟨⟨values, same, each⟩, becomes⟩
  · exact Or.inl ended
  · exact Or.inr ⟨⟨values, same, filterMap_of_forall₂ each⟩, becomes⟩

/-! ## Searches that change no entry -/

/-- Where stale entries are not rebuilt, looking at a candidate writes nothing. -/
theorem hit_quiet_inv (off : catalog.settings.reindexOnSearch = false) {query : Query} {id : Value}
    {outcome : Except Failure (Option Value)}
    (runs : Runs (hit catalog host entityType query id) before outcome after) :
    after = before := by
  have looked {result : Except Failure (Option Entry)} {finish : Store}
      (ran : Runs (freshEntry catalog host entityType id) before result finish) :
      finish = before := by
    rcases ran.bind_inv with ⟨stored, middle, first, rest⟩ | ⟨failure, -, first⟩
    · obtain ⟨-, rfl⟩ := first.query_inv
      split at rest
      · exact rest.pure_inv.2
      · simp only [off, Bool.not_false, if_true] at rest
        exact rest.pure_inv.2
    · exact first.query_inv.2
  rcases runs.bind_inv with ⟨fresh, middle, first, rest⟩ | ⟨failure, -, first⟩
  · exact rest.pure_inv.2.trans (looked first)
  · exact looked first

/-! ## Answers -/

theorem results_inv (steady : catalog.IsSteady host entityType) (query : Query)
    {candidates : List Id} (opened : before.requireOpen = .ok ())
    (accepts : ∀ id ∈ candidates, before.Accepts id) {total : Nat} {outcome : Except Failure Found}
    (runs : Runs (do
      let hits ← Action.each (hit catalog host entityType query) (candidates.map Id.value)
      emit (.setAttribute "record_search.results" (.int (hits.filterMap id).length))
      return ⟨hits.filterMap id, some total⟩) before outcome after) :
    (∃ failure, outcome = .error failure ∧ catalog.settings.reindexOnSearch = true ∧
        EndsIn catalog host entityType failure) ∨
      (∃ found, outcome = .ok found ∧ found.ids =
        (candidates.filter (isResult catalog host entityType query before.find?)).map Id.value) ∧
        (catalog.settings.reindexOnSearch = false → after = before) ∧
        before.Becomes (tending entityType candidates
          (fun owner => attended catalog.settings.reindexOnSearch (catalog.live host owner))
          before.find?) after := by
  rcases runs.bind_inv with ⟨hits, middle, looked, rest⟩ | ⟨failure, rfl, looked⟩
  · obtain ⟨rfl, rfl⟩ := (rest.bind_quiet_inv Runs.emit_inv).pure_inv
    rcases hits_inv steady query opened accepts looked with
      ⟨failure, impossible, -⟩ | ⟨⟨values, same, found⟩, becomes⟩
    · cases impossible
    · cases same
      exact Or.inr ⟨⟨_, rfl, found⟩,
        fun off => Runs.each_quiet_inv (fun _ _ {_ _ _} step => hit_quiet_inv off step) looked, becomes⟩
  · rcases hits_inv steady query opened accepts looked with
      ⟨same, isSame, ends⟩ | ⟨⟨values, impossible, -⟩, -⟩
    · cases isSame
      exact Or.inl ⟨failure, rfl, ends⟩
    · cases impossible

/-- The answer of a search and the entries that it leaves, where there is something to look for. -/
theorem examine_inv (steady : catalog.IsSteady host entityType) {query : Query}
    {candidates : List Id} (defined : (catalog.registry.get entityType).isEmpty = false)
    (known : ∀ name ∈ query.qualifiers, (catalog.registry.get entityType).knows name = true)
    (serves : before.Serves fun id => (before.find? ⟨entityType, id⟩).isSome ∨ id ∈ candidates)
    {outcome : Except Failure Found}
    (runs : Runs (examine catalog host entityType query (candidates.map Id.value)) before outcome
      after) :
    (∃ failure, outcome = .error failure ∧ catalog.settings.reindexOnSearch = true ∧
        EndsIn catalog host entityType failure) ∨
      (∃ found, outcome = .ok found ∧ found.ids =
        (candidates.filter (isResult catalog host entityType query before.find?)).map Id.value) ∧
        (catalog.settings.reindexOnSearch = false → after = before) ∧
        before.Becomes (afterSearch catalog host entityType candidates before.find?) after := by
  have none : query.qualifiers.filter (fun name => !(catalog.registry.get entityType).knows name) =
      [] := by
    refine List.filter_eq_nil_iff.2 fun name member => ?_
    simp [known name member]
  have acceptsCandidate : ∀ id ∈ candidates, before.Accepts id := fun id member =>
    serves.accepts id (Or.inr member)
  simp only [examine, defined, none, Bool.false_eq_true, if_false, List.isEmpty_nil, Bool.not_true]
    at runs
  by_cases rebuilds : catalog.settings.reindexOnSearch = true
  · rw [if_pos rebuilds] at runs
    rcases runs.bind_inv with ⟨report, middle, batch, rest⟩ | ⟨failure, rfl, batch⟩
    · rcases reindexAll_inv steady serves.opened (fun id held => serves.accepts id (Or.inl held))
        batch with ⟨failure, impossible, -⟩ | ⟨-, refreshedAll⟩
      · cases impossible
      have view (id : Id) : middle.find? ⟨entityType, id⟩ =
          refreshed (catalog.live host ⟨entityType, id⟩) (before.find? ⟨entityType, id⟩) := by
        rw [refreshedAll.found]
        exact if_pos rfl
      have sameResults : isResult catalog host entityType query middle.find? =
          isResult catalog host entityType query before.find? := by
        funext id
        simp only [isResult, rebuilds, view, effective_refreshed fun _ => fresh_of_live]
      rcases results_inv steady query
        ((Store.requireOpen_of_kind refreshedAll.kind).trans serves.opened)
        (fun id member => Store.accepts_of_kind refreshedAll.kind (acceptsCandidate id member))
        rest with ended | ⟨found, -, becomes⟩
      · exact Or.inl ended
      rw [sameResults] at found
      refine Or.inr ⟨found, fun off => absurd rebuilds (by simp [off]),
        becomes.kind.trans refreshedAll.kind, ?_⟩
      rw [becomes.found]
      funext owner
      obtain ⟨ownerType, id⟩ := owner
      by_cases isType : ownerType = entityType
      · subst isType
        by_cases member : id ∈ candidates
        · simp only [tending, afterSearch, member, true_and, or_true, if_true, view, rebuilds,
            attended_refreshed fun _ => fresh_of_live]
        · simp only [tending, afterSearch, member, true_and, or_false, if_false, view, rebuilds,
            refreshed_eq_attended]
      · have elsewhere : middle.find? ⟨ownerType, id⟩ = before.find? ⟨ownerType, id⟩ := by
          rw [refreshedAll.found]
          exact if_neg isType
        simp only [tending, afterSearch, isType, false_and, if_false, elsewhere]
    · rcases reindexAll_inv steady serves.opened (fun id held => serves.accepts id (Or.inl held))
        batch with ⟨same, isSame, ends⟩ | ⟨⟨report, impossible⟩, -⟩
      · cases isSame
        exact Or.inl ⟨failure, rfl, rebuilds, ends⟩
      · cases impossible
  · rw [if_neg rebuilds] at runs
    rcases results_inv steady query serves.opened acceptsCandidate runs with
      ended | ⟨found, quiet, becomes⟩
    · exact Or.inl ended
    refine Or.inr ⟨found, quiet, becomes.kind, ?_⟩
    rw [quiet (by simpa using rebuilds)]
    funext owner
    have stays : attended catalog.settings.reindexOnSearch (catalog.live host owner)
        (before.find? owner) = before.find? owner := by
      simp [attended, rebuilds]
    simp only [afterSearch, stays, ite_self]

/-! ## Early answers -/

theorem parse_inv {text : Option String} {outcome : Except Failure Query}
    (runs : Runs (parse text) before outcome after) :
    outcome = .ok (Query.parse (text.getD "")) ∧ after = before := by
  unfold parse at runs
  rcases runs.bind_inv with ⟨values, middle, first, rest⟩ | ⟨failure, -, first⟩
  all_goals
    obtain ⟨noted, rfl⟩ := first.each_calm_inv fun token {_ _ _} step => by
      split at step
      · exact ⟨⟨(), step.note_inv.1⟩, step.note_inv.2⟩
      · exact ⟨⟨(), step.pure_inv.1⟩, step.pure_inv.2⟩
  · exact (rest.bind_quiet_inv Runs.note_inv).pure_inv
  · obtain ⟨values, impossible⟩ := noted
    cases impossible

theorem isQuiet_parse (text : Option String) : IsQuiet (parse text) := by
  refine IsQuiet.bind (isQuiet_each fun token _ => ?_) fun _ _ => ?_
  · split
    · exact isQuiet_emit _
    · exact isQuiet_pure _
  · exact (isQuiet_emit _).bind fun _ _ => isQuiet_pure _

/-- A search that is over before entries are looked at only writes to the trail. -/
theorem isQuiet_search {text : Option String} {scope : Scope}
    (quiet : IsQuiet (find catalog host entityType (Query.parse (text.getD "")) scope)) :
    IsQuiet (search catalog host entityType text scope) := by
  refine (isQuiet_parse text).bind fun query parsed => ?_
  obtain ⟨index, given⟩ := parsed
  have same := (parse_inv (runs_self (parse text) index)).1
  rw [given] at same
  cases same
  refine (isQuiet_emit _).bind fun _ _ => IsQuiet.bind ?_ fun found _ => ?_
  · exact ((quiet.span _ _).timed _).bound _
  · dsimp only
    split
    · exact (isQuiet_emit _).bind fun _ _ => isQuiet_pure _
    · exact isQuiet_pure _

theorem search_inv {text : Option String} {scope : Scope} {outcome : Except Failure (List Value)}
    (runs : Runs (search catalog host entityType text scope) before outcome after) :
    ∃ found, Runs (find catalog host entityType (Query.parse (text.getD "")) scope) before found
      after ∧ outcome = found.map Found.ids := by
  have started := runs.bind_quiet_inv parse_inv
  have counted := started.bind_quiet_inv Runs.count_inv
  rcases counted.bind_inv with ⟨found, middle, looked, rest⟩ | ⟨failure, rfl, looked⟩
  · have finished : outcome = .ok found.ids ∧ after = middle := by
      split at rest
      · exact (rest.bind_quiet_inv Runs.note_inv).pure_inv
      · exact rest.pure_inv
    obtain ⟨rfl, rfl⟩ := finished
    exact ⟨.ok found, looked.bound_inv.timed_inv.span_inv, rfl⟩
  · exact ⟨.error failure, looked.bound_inv.timed_inv.span_inv, rfl⟩

section Answer

variable {candidates : List Id} {scope : Scope} {text : Option String}

/-- A blank query gives all candidates and changes nothing. -/
theorem search_blank (index : Index)
    (listed : host.candidates entityType scope = .ok (candidates.map Id.value))
    (blank : (Query.parse (text.getD "")).isBlank = true) :
    (search catalog host entityType text scope index).1 = .ok (candidates.map Id.value) ∧
      ∃ trail, (search catalog host entityType text scope index).2 =
        { index with trail := trail } := by
  have stops : find catalog host entityType (Query.parse (text.getD "")) scope =
      Action.lift (host.candidates entityType scope) >>= fun found => pure ⟨found, none⟩ := by
    simp only [find, reading_candidates_source, blank, if_true]
  refine ⟨?_, isQuiet_search (by rw [stops]; exact (isQuiet_lift _).bind fun _ _ => isQuiet_pure _)
    index⟩
  obtain ⟨found, looked, outcome⟩ := search_inv (runs_self _ index)
  rw [stops, listed] at looked
  obtain ⟨rfl, -⟩ := (looked.bind_quiet_inv Runs.lift_inv).pure_inv
  exact outcome

/-- A type without fields, or a qualifier that names none, gives nothing and changes nothing. -/
theorem search_nothing (index : Index)
    (listed : host.candidates entityType scope = .ok (candidates.map Id.value))
    (asks : (Query.parse (text.getD "")).isBlank = false)
    (nothing : (catalog.registry.get entityType).isEmpty = true ∨
      ∃ name ∈ (Query.parse (text.getD "")).qualifiers,
        (catalog.registry.get entityType).knows name = false) :
    (search catalog host entityType text scope index).1 = .ok [] ∧
      ∃ trail, (search catalog host entityType text scope index).2 =
        { index with trail := trail } := by
  have stops : ∃ note : Note, find catalog host entityType (Query.parse (text.getD "")) scope =
      Action.lift (host.candidates entityType scope) >>= fun _ =>
        Index.note note >>= fun _ => pure ⟨[], none⟩ := by
    by_cases empty : (catalog.registry.get entityType).isEmpty = true
    · refine ⟨.nothingDefined entityType (Query.parse (text.getD "")), ?_⟩
      simp only [find, reading_candidates_source, asks, examine, empty, if_true, Bool.false_eq_true,
        if_false]
    · obtain ⟨name, member, unknown⟩ := nothing.resolve_left empty
      have some : ((Query.parse (text.getD "")).qualifiers.filter
          fun name => !(catalog.registry.get entityType).knows name).isEmpty = false := by
        refine Bool.eq_false_iff.2 fun isEmpty => ?_
        have listedToo : name ∈ (Query.parse (text.getD "")).qualifiers.filter
            fun name => !(catalog.registry.get entityType).knows name :=
          List.mem_filter.2 ⟨member, by simp [unknown]⟩
        rw [List.isEmpty_iff.1 isEmpty] at listedToo
        exact absurd listedToo (by simp)
      refine ⟨.qualifiersUnknown ((Query.parse (text.getD "")).qualifiers.filter
        fun name => !(catalog.registry.get entityType).knows name) entityType
        (Query.parse (text.getD "")), ?_⟩
      simp only [find, reading_candidates_source, asks, examine, empty, some, Bool.not_false,
        if_true, Bool.false_eq_true, if_false]
  obtain ⟨note, stops⟩ := stops
  refine ⟨?_, isQuiet_search (by
    rw [stops]
    exact (isQuiet_lift _).bind fun _ _ => (isQuiet_emit _).bind fun _ _ => isQuiet_pure _) index⟩
  obtain ⟨found, looked, outcome⟩ := search_inv (runs_self _ index)
  rw [stops, listed] at looked
  obtain ⟨rfl, -⟩ := ((looked.bind_quiet_inv Runs.lift_inv).bind_quiet_inv Runs.note_inv).pure_inv
  exact outcome

/-- What a search answers and what it leaves of the index, whatever entries there are. -/
structure Answers (catalog : Catalog) (host : Host) (entityType : String) (query : Query)
    (candidates : List Id) (before : Index) (outcome : Except Failure (List Value))
    (after : Index) : Prop where
  blank : query.isBlank = true →
    outcome = .ok (candidates.map Id.value) ∧ ∃ trail, after = { before with trail := trail }
  nothing : query.isBlank = false →
    ((catalog.registry.get entityType).isEmpty = true ∨
      ∃ name ∈ query.qualifiers, (catalog.registry.get entityType).knows name = false) →
    outcome = .ok [] ∧ ∃ trail, after = { before with trail := trail }
  results : query.isBlank = false → (catalog.registry.get entityType).isEmpty = false →
    (∀ name ∈ query.qualifiers, (catalog.registry.get entityType).knows name = true) →
    (∃ failure, outcome = .error failure ∧ catalog.settings.reindexOnSearch = true ∧
        EndsIn catalog host entityType failure) ∨
      outcome = .ok ((candidates.filter
        (isResult catalog host entityType query before.store.find?)).map Id.value) ∧
        (catalog.settings.reindexOnSearch = false → after.store = before.store) ∧
        after.store.find? = afterSearch catalog host entityType candidates before.store.find?

/-- A search is one filter over the candidates, for any entries and whichever records cannot be
fetched or built. It fails only if a build of a record ends the program. -/
theorem search_answers (text : Option String) (scope : Scope) (index : Index)
    (listed : host.candidates entityType scope = .ok (candidates.map Id.value))
    (steady : catalog.IsSteady host entityType)
    (serves : index.store.Serves fun id =>
      (index.store.find? ⟨entityType, id⟩).isSome ∨ id ∈ candidates) :
    Answers catalog host entityType (Query.parse (text.getD "")) candidates index
      (search catalog host entityType text scope index).1
      (search catalog host entityType text scope index).2 where
  blank := search_blank index listed
  nothing := search_nothing index listed
  results := by
    intro asks defined known
    obtain ⟨found, looked, outcome⟩ := search_inv
      (runs_self (search catalog host entityType text scope) index)
    have listing : find catalog host entityType (Query.parse (text.getD "")) scope =
        Action.lift (.ok (candidates.map Id.value)) >>= fun values =>
          examine catalog host entityType (Query.parse (text.getD "")) values := by
      simp only [find, reading_candidates_source, listed, asks, Bool.false_eq_true, if_false]
    rw [listing] at looked
    rcases examine_inv steady defined known serves (looked.bind_quiet_inv Runs.lift_inv) with
      ⟨failure, rfl, ends⟩ | ⟨⟨answer, rfl, same⟩, quiet, becomes⟩
    · exact Or.inl ⟨failure, outcome, ends⟩
    · refine Or.inr ⟨?_, quiet, becomes.found⟩
      rw [outcome, ← same]
      rfl

/-- Posts are searched by their titles. -/
def byTitle : Catalog :=
  ⟨default, ⟨true, .ofList [("post", ⟨true, .ofList [("title",
    ⟨.extractor (.requiredText "title"), true⟩)]⟩)]⟩, .empty⟩

def post (id : Int) (title : Value) : (String × Key) × HostRecord :=
  (("post", .int id), ⟨.int id, .ofList [("title", title)]⟩)

/-- Six posts, of which the fifth cannot be fetched and the sixth has no text for a title. -/
def posts : Host :=
  { Host.empty with
    records := .ofList [post 1 (.str "needle"), post 2 (.str "needle"), post 3 (.str "thread"),
      post 4 (.str "needle"), post 5 (.str "needle"), post 6 (.int 7)]
    outage := ⟨[("post", .int 5)], [], []⟩ }

/-- Fresh entries with a wrong text and with one that cannot be built, stale ones, none of the
fourth post, and entries of posts that are gone and of another type. -/
def untended : Index :=
  let fresh (text : String) : Content := .ofTexts ⟨text, .empty⟩
  { (default : Index) with
    store := .memory ⟨.ofList [(⟨"post", .int 8⟩, (fresh "needle").asStale),
      (⟨"post", .int 1⟩, fresh "thread"), (⟨"post", .int 2⟩, (fresh "thread").asStale),
      (⟨"post", .int 3⟩, (fresh "needle").asStale), (⟨"post", .int 5⟩, (fresh "needle").asStale),
      (⟨"post", .int 6⟩, fresh "needle"), (⟨"post", .int 9⟩, fresh "needle"),
      (⟨"note", .int 1⟩, .placeholder)]⟩ }

/-- The wrong fresh text hides the first post, the sixth is found by the text that it was stored
with, and the others as they are now, but for the one that cannot be fetched. -/
theorem search_answers_untended :
    let outcome := (search byTitle posts "post" (some "needle") .all untended).1
    let after := (search byTitle posts "post" (some "needle") .all untended).2
    Answers byTitle posts "post" (Query.parse "needle")
        [.int 1, .int 2, .int 3, .int 4, .int 5, .int 6] untended outcome after ∧
      outcome = .ok [.int 2, .int 4, .int 6] ∧
      (after.store.entries.map fun entry =>
          (entry.owner, entry.content.fullText, entry.content.stale)) =
        [(⟨"post", .int 1⟩, "thread", false), (⟨"post", .int 2⟩, "needle", false),
          (⟨"post", .int 3⟩, "thread", false), (⟨"post", .int 5⟩, "needle", true),
          (⟨"post", .int 6⟩, "needle", false), (⟨"post", .int 9⟩, "needle", false),
          (⟨"note", .int 1⟩, "", true), (⟨"post", .int 4⟩, "needle", false)] := by
  intro outcome after
  have steady : byTitle.IsSteady posts "post" := Catalog.isSteady_of_texts fun row member => by
    have rows : (byTitle.registry.get "post").fields.rows =
        [("title", ⟨.extractor (.requiredText "title"), true⟩)] := rfl
    rw [rows, List.mem_singleton] at member
    exact ⟨"title", congrArg (fun row => row.2.source) member⟩
  have answers : Answers byTitle posts "post" (Query.parse "needle")
      [.int 1, .int 2, .int 3, .int 4, .int 5, .int 6] untended outcome after :=
    search_answers (some "needle") .all untended rfl steady ⟨rfl, fun _ _ => trivial⟩
  have returned : outcome.toOption.isSome = true := by decide +kernel
  have found : [Id.int 1, .int 2, .int 3, .int 4, .int 5, .int 6].filter
      (isResult byTitle posts "post" (Query.parse "needle") untended.store.find?) =
        [.int 2, .int 4, .int 6] := by decide +kernel
  rcases answers.results (by decide +kernel) (by decide +kernel) (by decide +kernel) with
    ⟨failure, failed, -⟩ | ⟨given, -⟩
  · rw [show outcome = .error failure from failed] at returned
    cases returned
  · rw [found] at given
    exact ⟨answers, given, by decide +kernel⟩

end Answer

end ShadowIndex.Index
