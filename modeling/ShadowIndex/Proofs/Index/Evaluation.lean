import ShadowIndex.Proofs.Host.Candidates
import ShadowIndex.Proofs.Index.Blind
import ShadowIndex.Proofs.Index.Search

/-!
Contract: answers of searches, read off the entries that are looked at.

Owns:
- `Index.freshEntries`, the entries that a search looks at, whatever it looks for;
- `Definition.keeps`, the test that a query puts to an entry, early exits included;
- `Index.search_of_ok`, the answer to any query once the entries are known, and
  `Index.search_of_error`, the answers that remain where they cannot be had.

Does not own: how the answers to two queries are related, or what a search leaves of the index.
-/

set_option autoImplicit false

namespace ShadowIndex

/-! ## What a query keeps -/

namespace Definition

/-- Whether entries have to be looked at to answer a query. -/
def asks (definition : Definition) (query : Query) : Bool :=
  !query.isBlank && !definition.isEmpty && query.qualifiers.all definition.knows

/-- Whether a query keeps a candidate with an entry that is up to date, or without one. -/
def keeps (definition : Definition) (query : Query) (fresh : Option Entry) : Bool :=
  query.isBlank || (definition.asks query && fresh.any (definition.accepts query))

variable {definition : Definition} {query : Query}

theorem keeps_of_asked (asked : definition.asks query = true) :
    definition.keeps query = fun fresh => fresh.any (definition.accepts query) := by
  have notBlank : query.isBlank = false := by
    simp only [asks, Bool.and_eq_true, Bool.not_eq_true'] at asked
    exact asked.1.1
  funext fresh
  simp [keeps, asked, notBlank]

/-- A query for which no entries are looked at keeps all candidates, or none. -/
theorem keeps_of_not_asked (settled : definition.asks query = false) :
    definition.keeps query = fun _ => query.isBlank := by
  funext fresh
  simp [keeps, settled]

end Definition

namespace Index

variable {catalog : Catalog} {host : Host} {entityType : String}

/-! ## Entries that are looked at -/

/-- The entries of candidates that can be served up to date, after stale entries were rebuilt where
they are. -/
def freshEntries (catalog : Catalog) (host : Host) (entityType : String) (candidates : List Value) :
    Action Index (List (Option Entry)) := do
  if catalog.settings.reindexOnSearch then
    let _ ← reindexAll catalog host entityType
  Action.each (freshEntry catalog host entityType) candidates

/-- The batch before the entries are looked at does not depend on the candidates. -/
theorem freshEntries_cases (catalog : Catalog) (host : Host) (entityType : String) (index : Index) :
    (∃ failure, ∀ candidates,
      (freshEntries catalog host entityType candidates index).1 = .error failure) ∨
    ∃ start, ∀ candidates, (freshEntries catalog host entityType candidates index).1 =
      (Action.each (freshEntry catalog host entityType) candidates start).1 := by
  unfold freshEntries
  split
  · simp only [Action.bind_apply]
    cases reindexAll catalog host entityType index with
    | mk outcome start =>
        cases outcome with
        | error failure => exact Or.inl ⟨failure, fun _ => rfl⟩
        | ok report => exact Or.inr ⟨start, fun _ => rfl⟩
  · exact Or.inr ⟨index, fun _ => rfl⟩

theorem isBlind_freshEntries (candidates : List Value) :
    IsBlind (freshEntries catalog host entityType candidates) := by
  have looks : IsBlind (Action.each (freshEntry catalog host entityType) candidates) :=
    isBlind_each (isBlind_freshEntry catalog host entityType)
  unfold freshEntries
  split
  · exact (isBlind_reindexAll catalog host entityType).bind fun _ => looks
  · exact looks

theorem Runs.length_each_inv {α β : Type} {action : α → Action Index β} {items : List α}
    {before after : Store} {values : List β}
    (runs : Runs (Action.each action items) before (.ok values) after) :
    values.length = items.length := by
  induction items generalizing before values with
  | nil =>
      cases runs.each_nil_inv.1
      rfl
  | cons item rest inductionHypothesis =>
      rcases runs.each_cons_inv with ⟨value, middle, -, others⟩ | ⟨failure, impossible, -⟩
      · rcases others with ⟨found, same, ran⟩ | ⟨failure, impossible, -⟩
        · cases same
          rw [List.length_cons, List.length_cons, inductionHypothesis ran]
        · cases impossible
      · cases impossible

theorem length_freshEntries {candidates : List Value} {entries : List (Option Entry)}
    {index : Index}
    (looked : (freshEntries catalog host entityType candidates index).1 = .ok entries) :
    entries.length = candidates.length := by
  rcases freshEntries_cases catalog host entityType index with ⟨failure, fails⟩ | ⟨start, same⟩
  · rw [fails] at looked
    cases looked
  · have runs := runs_self (Action.each (freshEntry catalog host entityType) candidates) start
    rw [← same, looked] at runs
    exact runs.length_each_inv

/-- A blind action has the outcome that it has without its brackets. -/
theorem IsBlind.outcome_eq {α : Type} {action : Action Index α} (blind : IsBlind action)
    (index : Index) (trail : Trail) :
    (action { index with trail := trail }).1 = (action index).1 := by
  obtain ⟨last, same⟩ := blind index trail
  rw [same]

/-! ## Candidates and their entries -/

section Matching

variable {α β : Type} {candidates : List α} {entries : List (Option Entry)}

/-- The candidates whose entries pass a test. -/
def matching (test : Option Entry → Bool) (candidates : List α) (entries : List (Option Entry)) :
    List α :=
  ((candidates.zip entries).filter fun row => test row.2).map Prod.fst

theorem matching_map (test : Option Entry → Bool) (change : α → β) :
    matching test (candidates.map change) entries =
      (matching test candidates entries).map change := by
  simp [matching, List.zip_map_left, List.filter_map, Function.comp_def]

/-- Entries that are read off the candidates. -/
theorem matching_of_map (test : Option Entry → Bool) (view : α → Option Entry) :
    matching test candidates (candidates.map view) =
      candidates.filter fun id => test (view id) := by
  induction candidates with
  | nil => rfl
  | cons candidate rest inductionHypothesis =>
      have same := inductionHypothesis
      by_cases passes : test (view candidate) = true
      · simpa [matching, passes] using same
      · simpa [matching, passes] using same

theorem matching_true (whole : candidates.length ≤ entries.length) :
    matching (fun _ => true) candidates entries = candidates := by
  simp [matching, List.map_fst_zip whole]

theorem matching_sublist (test : Option Entry → Bool) (whole : candidates.length ≤ entries.length) :
    (matching test candidates entries).Sublist candidates := by
  have fewer : ((candidates.zip entries).filter fun row => test row.2).Sublist
      (candidates.zip entries) := List.filter_sublist
  have onlyIds := fewer.map Prod.fst
  rwa [List.map_fst_zip whole] at onlyIds

theorem matching_false : matching (fun _ => false) candidates entries = [] := by
  simp [matching]

theorem filter_matching_eq (test : Option Entry → Bool) (keep : α → Bool) :
    (matching test candidates entries).filter keep =
      ((candidates.zip entries).filter fun row => keep row.1 && test row.2).map Prod.fst := by
  rw [matching, List.filter_map, List.filter_filter]
  rfl

/-- Where no candidate is listed twice, those that pass one test and are among those that pass
another one pass both. -/
theorem filter_matching [DecidableEq α] (once : candidates.Nodup)
    (whole : candidates.length ≤ entries.length) (left right : Option Entry → Bool) :
    (matching left candidates entries).filter
        (fun id => decide (id ∈ matching right candidates entries)) =
      matching (fun fresh => left fresh && right fresh) candidates entries := by
  have onceZipped : ((candidates.zip entries).map Prod.fst).Nodup := by
    rwa [List.map_fst_zip whole]
  have isMember : ∀ row ∈ candidates.zip entries,
      row.1 ∈ matching right candidates entries ↔ right row.2 = true := by
    intro row member
    simp only [matching, List.mem_map, List.mem_filter]
    constructor
    · rintro ⟨other, ⟨isRow, passes⟩, same⟩
      rwa [← List.inj_on_of_nodup_map onceZipped isRow member same]
    · exact fun passes => ⟨row, ⟨member, passes⟩, rfl⟩
  have kept : ∀ row ∈ candidates.zip entries,
      (decide (row.1 ∈ matching right candidates entries) && left row.2) =
        (left row.2 && right row.2) := by
    intro row member
    rw [Bool.eq_iff_iff]
    simp [isMember row member, and_comm]
  rw [filter_matching_eq, List.filter_congr kept, matching]

end Matching

/-- A repetition whose values are changed one by one. -/
theorem each_zipWith {σ α β γ : Type} (action : α → Action σ β) (change : α → β → γ)
    (items : List α) (state : σ) :
    Action.each (fun item => do return change item (← action item)) items state =
      ((Action.each action items state).1.map (items.zipWith change),
        (Action.each action items state).2) := by
  induction items generalizing state with
  | nil => rfl
  | cons item rest inductionHypothesis =>
      simp only [Action.each, Action.bind_apply]
      cases action item state with
      | mk outcome after =>
          cases outcome with
          | error failure => rfl
          | ok value =>
              simp only [Action.pure_apply, inductionHypothesis after]
              cases Action.each action rest after with
              | mk others last => cases others <;> rfl

theorem filterMap_zipWith (test : Option Entry → Bool) (candidates : List Value)
    (entries : List (Option Entry)) :
    (candidates.zipWith (fun id fresh => if test fresh then some id else none) entries).filterMap
      id = matching test candidates entries := by
  induction candidates generalizing entries with
  | nil => rfl
  | cons candidate rest inductionHypothesis =>
      cases entries with
      | nil => rfl
      | cons fresh others =>
          have same := inductionHypothesis others
          by_cases passes : test fresh = true
          · simpa [matching, passes] using same
          · simpa [matching, passes] using same

/-! ## Answers -/

section Answers

variable {scope : Scope} {candidates : List Value}

/-- The results among candidates, once their entries are looked at one by one. -/
theorem hits_outcome (query : Query) (total : Nat) (index : Index) :
    ((do
      let hits ← Action.each (hit catalog host entityType query) candidates
      emit (.setAttribute "record_search.results" (.int (hits.filterMap id).length))
      return ⟨hits.filterMap id, some total⟩ : Action Index Found) index).1.map Found.ids =
      (Action.each (freshEntry catalog host entityType) candidates index).1.map
        (matching (fun fresh => fresh.any ((catalog.registry.get entityType).accepts query))
          candidates) := by
  have hits := each_zipWith (freshEntry catalog host entityType)
    (fun id fresh => if fresh.any ((catalog.registry.get entityType).accepts query) then some id
      else none) candidates index
  rw [Action.bind_apply, show Action.each (hit catalog host entityType query) candidates index = _
    from hits]
  cases (Action.each (freshEntry catalog host entityType) candidates index).1 with
  | error failure => rfl
  | ok entries =>
      rw [Except.map, Except.map, ← filterMap_zipWith]
      rfl

theorem isEmpty_unknown (definition : Definition) (query : Query) :
    (query.qualifiers.filter fun name => !definition.knows name).isEmpty =
      query.qualifiers.all definition.knows := by
  rw [Bool.eq_iff_iff]
  simp

theorem examine_of_asked {query : Query}
    (asked : (catalog.registry.get entityType).asks query = true) (index : Index) :
    (examine catalog host entityType query candidates index).1.map Found.ids =
      (freshEntries catalog host entityType candidates index).1.map
        (matching (fun fresh => fresh.any ((catalog.registry.get entityType).accepts query))
          candidates) := by
  simp only [Definition.asks, Bool.and_eq_true, Bool.not_eq_true'] at asked
  obtain ⟨⟨-, defined⟩, known⟩ := asked
  simp only [examine, defined, isEmpty_unknown, known, Bool.false_eq_true, if_false, Bool.not_true,
    freshEntries]
  split
  · rw [Action.bind_apply, Action.bind_apply]
    cases reindexAll catalog host entityType index with
    | mk outcome after =>
        cases outcome with
        | error failure => rfl
        | ok report => exact hits_outcome query candidates.length after
  · exact hits_outcome query candidates.length index

theorem find_of_listed (listed : host.candidates entityType scope = .ok candidates) (query : Query)
    (index : Index) :
    let definition := catalog.registry.get entityType
    (find catalog host entityType query scope index).1.map Found.ids =
      if definition.asks query then
        (freshEntries catalog host entityType candidates index).1.map
          (matching (fun fresh => fresh.any (definition.accepts query)) candidates)
      else .ok (if query.isBlank then candidates else []) := by
  intro definition
  by_cases blank : query.isBlank = true
  · simp [find, listed, Action.bind_apply, Action.lift, blank, definition, Definition.asks,
      Except.map]
  · have listing : find catalog host entityType query scope index =
        examine catalog host entityType query candidates index := by
      simp [find, listed, Action.bind_apply, Action.lift, blank]
    rw [listing]
    by_cases asked : definition.asks query = true
    · rw [if_pos asked]
      exact examine_of_asked asked index
    · rw [if_neg asked, if_neg blank]
      simp only [definition, Definition.asks, blank, Bool.not_false, Bool.true_and,
        Bool.and_eq_true, Bool.not_eq_true', not_and, Bool.not_eq_true] at asked
      cases defined : (catalog.registry.get entityType).isEmpty with
      | true =>
          simp [examine, defined, Index.note, emit, Action.change, Except.map]
      | false =>
          simp [examine, defined, isEmpty_unknown, asked defined, Index.note, emit, Action.change,
            Except.map]

/-- The note of a search does not change what was found. -/
theorem noted_outcome (query : Query) (work : Action Index Found) (index : Index) :
    ((do
      let found ← work
      match found.examined with
      | some candidates => note (.searched entityType query found.ids.length candidates)
      | none => pure ()
      return found.ids : Action Index (List Value)) index).1 = (work index).1.map Found.ids := by
  rw [Action.bind_apply]
  cases work index with
  | mk outcome after =>
      cases outcome with
      | error failure => rfl
      | ok found =>
          obtain ⟨ids, examined⟩ := found
          cases examined <;> rfl

theorem search_of_find (text : Option String) (index : Index) :
    ∃ trail, (search catalog host entityType text scope index).1 =
      (find catalog host entityType (Query.parse (text.getD "")) scope
        { index with trail := trail }).1.map Found.ids := by
  obtain ⟨trail, same⟩ := isQuiet_parse text index
  have parsed : parse text index =
      (.ok (Query.parse (text.getD "")), { index with trail := trail }) :=
    Prod.ext (parse_inv (runs_self (parse text) index)).1 same
  rw [search, Action.bind_apply, parsed]
  exact ⟨_, noted_outcome (Query.parse (text.getD "")) _ _⟩

/-- Where candidates cannot be listed, a search fails as the listing does. -/
theorem search_of_unlisted {failure : Failure}
    (unlisted : host.candidates entityType scope = .error failure) (text : Option String)
    (index : Index) : (search catalog host entityType text scope index).1 = .error failure := by
  obtain ⟨trail, same⟩ := search_of_find text index
  rw [same, find, reading_candidates_source, unlisted]
  rfl

/-- The answer of a search, read off the entries that it looks at. -/
theorem search_of_listed (listed : host.candidates entityType scope = .ok candidates)
    (text : Option String) (index : Index) :
    let definition := catalog.registry.get entityType
    let query := Query.parse (text.getD "")
    (search catalog host entityType text scope index).1 =
      if definition.asks query then
        (freshEntries catalog host entityType candidates index).1.map
          (matching (fun fresh => fresh.any (definition.accepts query)) candidates)
      else .ok (if query.isBlank then candidates else []) := by
  obtain ⟨trail, same⟩ := search_of_find text index
  rw [same, find_of_listed listed, (isBlind_freshEntries candidates).outcome_eq]

/-! ## Answers to any query -/

section Listed

variable {ids : List Id} {entries : List (Option Entry)} {index : Index}
variable (listed : host.candidates entityType scope = .ok (ids.map Id.value))
include listed

/-- Where no entries have to be looked at, the answer is the same for any entries. -/
theorem search_of_not_asked {text : Option String}
    (settled : (catalog.registry.get entityType).asks (Query.parse (text.getD "")) = false)
    (entries : List (Option Entry)) (whole : ids.length ≤ entries.length) :
    (search catalog host entityType text scope index).1 = .ok ((matching
      ((catalog.registry.get entityType).keeps (Query.parse (text.getD ""))) ids entries).map
        Id.value) := by
  rw [search_of_listed listed, if_neg (by simp [settled]), Definition.keeps_of_not_asked settled]
  cases (Query.parse (text.getD "")).isBlank with
  | true => rw [if_pos rfl, matching_true whole]
  | false =>
      rw [if_neg (by simp), matching_false]
      rfl

/-- The answer to any query, once the entries of the candidates are known. -/
theorem search_of_ok
    (looked : (freshEntries catalog host entityType (ids.map Id.value) index).1 = .ok entries)
    (text : Option String) :
    (search catalog host entityType text scope index).1 = .ok ((matching
      ((catalog.registry.get entityType).keeps (Query.parse (text.getD ""))) ids entries).map
        Id.value) := by
  cases asked : (catalog.registry.get entityType).asks (Query.parse (text.getD "")) with
  | true =>
      rw [search_of_listed listed, if_pos asked, looked, Definition.keeps_of_asked asked]
      exact congrArg Except.ok (matching_map _ Id.value)
  | false =>
      exact search_of_not_asked listed asked entries (by simp [length_freshEntries looked])

/-- Where the entries cannot be had, only queries that do not ask for them are answered. -/
theorem search_of_error {failure : Failure}
    (looked : (freshEntries catalog host entityType (ids.map Id.value) index).1 = .error failure)
    (text : Option String) :
    (search catalog host entityType text scope index).1 =
      if (catalog.registry.get entityType).asks (Query.parse (text.getD "")) then .error failure
      else .ok ((matching ((catalog.registry.get entityType).keeps (Query.parse (text.getD ""))) ids
        (ids.map fun _ => none)).map Id.value) := by
  cases asked : (catalog.registry.get entityType).asks (Query.parse (text.getD "")) with
  | true =>
      rw [search_of_listed listed, if_pos asked, if_pos rfl, looked]
      rfl
  | false => exact search_of_not_asked listed asked (ids.map fun _ => none) (by simp)

/-- Results are candidates, in their order. -/
theorem sublist_of_search {text : Option String} {found : List Value}
    (searched : (search catalog host entityType text scope index).1 = .ok found) :
    found.Sublist (ids.map Id.value) := by
  have answers {entries : List (Option Entry)} (whole : ids.length ≤ entries.length) :
      ((matching ((catalog.registry.get entityType).keeps (Query.parse (text.getD ""))) ids
        entries).map Id.value).Sublist (ids.map Id.value) :=
    (matching_sublist _ whole).map Id.value
  cases looked : (freshEntries catalog host entityType (ids.map Id.value) index).1 with
  | ok entries =>
      rw [search_of_ok listed looked] at searched
      cases searched
      exact answers (by simp [length_freshEntries looked])
  | error failure =>
      rw [search_of_error listed looked] at searched
      split at searched
      · cases searched
      · cases searched
        exact answers (by simp)

end Listed

end Answers

end Index

end ShadowIndex
