import ShadowIndex.Proofs.Index.Returning
import ShadowIndex.Proofs.Query.Concatenation

/-!
Contract: searches are composed of searches for the parts of their query, and within their scope.

Owns:
- `Index.search_joined`: two texts one behind the other give what each of them gives, in whichever
  state, also with fields that can be read only once;
- `Index.search_within`: a scope leaves of an answer the candidates that it admits, unless fields
  that can be read only once are read for it;
- `Index.Composes`, both laws with the syntax that they rest on and the searches that return, and a
  state with a field that is read once, in which the second law fails.

Does not own: what a search leaves of the index.
-/

set_option autoImplicit false

namespace ShadowIndex

/-! ## Queries one behind the other -/

namespace Definition

variable {definition : Definition} {left right both : Query}

/-- Two queries together keep what each of them keeps. -/
theorem keeps_of_joins (joins : Query.Joins left right both) (fresh : Option Entry) :
    definition.keeps both fresh =
      (definition.keeps left fresh && definition.keeps right fresh) := by
  have accepted : fresh.any (definition.accepts both) =
      (fresh.any (definition.accepts left) && fresh.any (definition.accepts right)) := by
    cases fresh with
    | none => rfl
    | some entry => exact joins.accepts_eq definition entry
  -- A blank query has no qualifiers and no terms that an entry could miss.
  have blank {query : Query} (isBlank : query.isBlank = true) :
      query.qualifiers.all definition.knows = true ∧
        ∀ other, (fresh.any (definition.accepts query) && fresh.any (definition.accepts other)) =
          fresh.any (definition.accepts other) := by
    rw [Query.isBlank, List.isEmpty_iff] at isBlank
    refine ⟨by simp [Query.qualifiers, isBlank, distinct], fun other => ?_⟩
    cases fresh <;> simp [accepts, isBlank]
  simp only [keeps, asks, joins.isBlank_eq, joins.all_qualifiers_eq, accepted]
  cases leftBlank : left.isBlank with
  | true =>
      obtain ⟨known, kept⟩ := blank leftBlank
      simp [known, kept]
  | false =>
      cases rightBlank : right.isBlank with
      | true =>
          obtain ⟨known, kept⟩ := blank rightBlank
          simp [known, Bool.and_comm (fresh.any (definition.accepts left)), kept]
      | false =>
          rw [Bool.eq_iff_iff]
          simp only [Bool.false_and, Bool.false_or, Bool.not_false, Bool.true_and, Bool.and_eq_true]
          tauto

/-- Entries are looked at for two queries together only if they are for one of them. -/
theorem asks_of_joins (joins : Query.Joins left right both) (asked : definition.asks both = true) :
    definition.asks left = true ∨ definition.asks right = true := by
  simp only [asks, joins.isBlank_eq, joins.all_qualifiers_eq, Bool.not_and, Bool.and_eq_true,
    Bool.or_eq_true] at asked ⊢
  tauto

end Definition

namespace Index

variable {catalog : Catalog} {host : Host} {entityType : String} {ids : List Id} {scope : Scope}
variable {index : Index}

/-- What two queries keep of entries is, between them, what they keep together. -/
theorem among_matching {definition : Definition} {left right both : Query}
    (joins : Query.Joins left right both) (once : ids.Nodup) {entries : List (Option Entry)}
    (whole : ids.length ≤ entries.length) :
    among ((matching (definition.keeps left) ids entries).map Id.value)
        ((matching (definition.keeps right) ids entries).map Id.value) =
      (matching (definition.keeps both) ids entries).map Id.value := by
  have together : definition.keeps both =
      fun fresh => definition.keeps left fresh && definition.keeps right fresh :=
    funext (Definition.keeps_of_joins joins)
  rw [among_value, filter_matching once whole, together]

section Joined

variable {left right both : Option String}
variable (joins : Query.Joins (Query.parse (left.getD "")) (Query.parse (right.getD ""))
  (Query.parse (both.getD "")))
include joins

/-- A search for two texts together gives what both give that are searched for alone. All three
look at the same entries, which do not depend on the query. -/
theorem search_joined (enumerates : host.Enumerates entityType ids) {found others : List Value}
    (first : (search catalog host entityType left scope index).1 = .ok found)
    (second : (search catalog host entityType right scope index).1 = .ok others) :
    (search catalog host entityType both scope index).1 = .ok (among found others) := by
  cases candidates : host.candidates entityType scope with
  | error failure =>
      rw [search_of_unlisted candidates] at first
      cases first
  | ok values =>
      obtain ⟨part, rfl, sublist⟩ := enumerates.within candidates
      have once := sublist.nodup enumerates.nodup
      cases looked : (freshEntries catalog host entityType (part.map Id.value) index).1 with
      | ok entries =>
          rw [search_of_ok candidates looked] at first second ⊢
          cases first
          cases second
          rw [among_matching joins once (by simp [length_freshEntries looked])]
      | error failure =>
          rw [search_of_error candidates looked] at first second ⊢
          split at first
          · cases first
          split at second
          · cases second
          rename_i leftSettled rightSettled
          rw [if_neg fun asked =>
            (Definition.asks_of_joins joins asked).elim leftSettled rightSettled]
          cases first
          cases second
          rw [among_matching joins once (by simp)]

/-- A search for two texts together fails only as the search for one of them does. -/
theorem search_joined_failed (enumerates : host.Enumerates entityType ids) {failure : Failure}
    (failed : (search catalog host entityType both scope index).1 = .error failure) :
    (search catalog host entityType left scope index).1 = .error failure ∨
      (search catalog host entityType right scope index).1 = .error failure := by
  cases candidates : host.candidates entityType scope with
  | error cause =>
      rw [search_of_unlisted candidates] at failed ⊢
      exact Or.inl failed
  | ok values =>
      obtain ⟨part, rfl, -⟩ := enumerates.within candidates
      cases looked : (freshEntries catalog host entityType (part.map Id.value) index).1 with
      | ok entries =>
          rw [search_of_ok candidates looked] at failed
          cases failed
      | error cause =>
          rw [search_of_error candidates looked] at failed ⊢
          split at failed
          · rename_i asked
            rw [search_of_error candidates looked]
            refine (Definition.asks_of_joins joins asked).imp (fun isAsked => ?_) fun isAsked => ?_
            · rw [if_pos isAsked, failed]
            · rw [if_pos isAsked, failed]
          · cases failed

end Joined

/-! ## Scopes -/

section Scoped

variable {before after : Store}
variable (steady : catalog.settings.reindexOnSearch = true → catalog.IsSteady host entityType)

/-- What is served of the entry of a record that a store holds. -/
abbrev servedIn (catalog : Catalog) (host : Host) (entityType : String) (store : Store) (id : Id) :
    Except Failure (Option Entry) :=
  served catalog.settings.reindexOnSearch (catalog.live host ⟨entityType, id⟩)
    (store.find? ⟨entityType, id⟩)

/-- A look at one record leaves what is served of every record as it was. -/
theorem servedIn_of_becomes {id : Id}
    (becomes : before.Becomes (Function.update before.find? ⟨entityType, id⟩
      (attended catalog.settings.reindexOnSearch (catalog.live host ⟨entityType, id⟩)
        (before.find? ⟨entityType, id⟩))) after) :
    servedIn catalog host entityType after = servedIn catalog host entityType before := by
  funext other
  simp only [servedIn, becomes.found]
  by_cases same : other = id
  · subst same
    rw [Function.update_self, served_attended fun _ => fresh_of_live]
  · rw [Function.update_of_ne (by simpa using same)]

include steady

theorem freshEntry_ok_inv {id : Id} {fresh : Option Entry}
    (runs : Runs (freshEntry catalog host entityType id.value) before (.ok fresh) after) :
    (before.requireOpen = .ok () ∧ before.Accepts id) ∧
      servedIn catalog host entityType before id = .ok fresh ∧ after.kind = before.kind ∧
      servedIn catalog host entityType after = servedIn catalog host entityType before := by
  have ready : before.requireOpen = .ok () ∧ before.Accepts id := by
    rcases runs.bind_inv with ⟨stored, middle, looked, -⟩ | ⟨failure, impossible, -⟩
    · exact Store.serves_of_get looked.query_inv.1.symm
    · cases impossible
  obtain ⟨same, becomes⟩ := freshEntry_steady_inv steady ready.1 ready.2 runs
  exact ⟨ready, same.symm, becomes.kind, servedIn_of_becomes becomes⟩

/-- Entries that could be had were served by a store that is open and can hold the ids. -/
theorem each_freshEntry_ok_inv {entries : List (Option Entry)}
    (runs : Runs (Action.each (freshEntry catalog host entityType) (ids.map Id.value)) before
      (.ok entries) after) :
    ∀ id ∈ ids, (before.requireOpen = .ok () ∧ before.Accepts id) ∧
      ∃ fresh, servedIn catalog host entityType before id = .ok fresh := by
  induction ids generalizing before entries with
  | nil => simp
  | cons first rest inductionHypothesis =>
      rcases runs.each_cons_inv with ⟨fresh, middle, looked, others⟩ | ⟨failure, impossible, -⟩
      · obtain ⟨ready, same, kind, serves⟩ := freshEntry_ok_inv steady looked
        rcases others with ⟨found, -, ran⟩ | ⟨failure, impossible, -⟩
        · intro id member
          rcases List.mem_cons.1 member with rfl | later
          · exact ⟨ready, fresh, same⟩
          · obtain ⟨⟨-, accepts⟩, known⟩ := inductionHypothesis ran id later
            exact ⟨⟨ready.1, Store.accepts_of_kind kind.symm accepts⟩, by rwa [serves] at known⟩
        · cases impossible
      · cases impossible

/-- Where each look succeeds on its own, so do all of them in a row, with the same entries. -/
theorem each_freshEntry_inv {view : Id → Option Entry}
    (ready : ∀ id ∈ ids, before.requireOpen = .ok () ∧ before.Accepts id)
    (serves : ∀ id ∈ ids, servedIn catalog host entityType before id = .ok (view id))
    {outcome : Except Failure (List (Option Entry))}
    (runs : Runs (Action.each (freshEntry catalog host entityType) (ids.map Id.value)) before
      outcome after) : outcome = .ok (ids.map view) := by
  induction ids generalizing before outcome after with
  | nil => exact runs.each_nil_inv.1
  | cons first rest inductionHypothesis =>
      obtain ⟨opened, accepts⟩ := ready first (by simp)
      have isServed := serves first (by simp)
      rcases runs.each_cons_inv with ⟨fresh, middle, looked, others⟩ | ⟨failure, -, failed⟩
      · obtain ⟨same, becomes⟩ := freshEntry_steady_inv steady opened accepts looked
        obtain rfl : fresh = view first := Except.ok.inj (same.trans isServed)
        have readyLater : ∀ id ∈ rest, middle.requireOpen = .ok () ∧ middle.Accepts id :=
          fun id member => ⟨(Store.requireOpen_of_kind becomes.kind).trans opened,
            Store.accepts_of_kind becomes.kind (ready id (by simp [member])).2⟩
        have servesLater : ∀ id ∈ rest,
            servedIn catalog host entityType middle id = .ok (view id) := fun id member => by
          rw [servedIn_of_becomes becomes]
          exact serves id (by simp [member])
        rcases others with ⟨found, rfl, ran⟩ | ⟨failure, rfl, ran⟩
        · cases inductionHypothesis readyLater servesLater ran
          rfl
        · cases inductionHypothesis readyLater servesLater ran
      · cases (freshEntry_steady_inv steady opened accepts failed).1.trans isServed

/-- If entries can be had for all candidates, they can be had for some of them, and are the same. -/
theorem freshEntries_within {part : List Id}
    (fewer : ∀ id ∈ part, id ∈ ids) {entries : List (Option Entry)}
    (looked : (freshEntries catalog host entityType (ids.map Id.value) index).1 = .ok entries) :
    ∃ view : Id → Option Entry, entries = ids.map view ∧
      (freshEntries catalog host entityType (part.map Id.value) index).1 = .ok (part.map view) := by
  rcases freshEntries_cases catalog host entityType index with ⟨failure, fails⟩ | ⟨start, same⟩
  · rw [fails] at looked
    cases looked
  rw [same] at looked ⊢
  have runs := runs_self (Action.each (freshEntry catalog host entityType) (ids.map Id.value)) start
  have known := each_freshEntry_ok_inv steady (by rwa [looked] at runs)
  have serves : ∀ id ∈ ids, servedIn catalog host entityType start.store id =
      .ok (effective catalog.settings.reindexOnSearch (catalog.live host ⟨entityType, id⟩)
        (start.store.find? ⟨entityType, id⟩)) := by
    intro id member
    obtain ⟨-, fresh, gave⟩ := known id member
    refine (served_cases _ _ _).resolve_left ?_
    rintro ⟨failure, failed, -⟩
    cases gave.symm.trans failed
  refine ⟨_, ?_, each_freshEntry_inv steady (fun id member => (known id (fewer id member)).1)
    (fun id member => serves id (fewer id member)) (runs_self _ start)⟩
  exact Except.ok.inj (looked.symm.trans
    (each_freshEntry_inv steady (fun id member => (known id member).1) serves runs))

/-- A search within a scope gives what the search of all records gives that the scope admits. It
looks at fewer entries, which the others do not change. -/
theorem search_within (enumerates : host.Enumerates entityType ids) {text : Option String}
    {found candidates : List Value}
    (whole : (search catalog host entityType text .all index).1 = .ok found)
    (admitted : host.candidates entityType scope = .ok candidates) :
    (search catalog host entityType text scope index).1 = .ok (among found candidates) := by
  obtain ⟨part, rfl, sublist⟩ := enumerates.within admitted
  cases asked : (catalog.registry.get entityType).asks (Query.parse (text.getD "")) with
  | true =>
      cases looked : (freshEntries catalog host entityType (ids.map Id.value) index).1 with
      | error failure =>
          rw [search_of_error enumerates.listed looked, if_pos asked] at whole
          cases whole
      | ok entries =>
          obtain ⟨view, rfl, some⟩ := freshEntries_within steady (fun _ => sublist.mem) looked
          rw [search_of_ok enumerates.listed looked, matching_of_map] at whole
          cases whole
          rw [search_of_ok admitted some, matching_of_map, among_filter sublist enumerates.nodup]
  | false =>
      rw [search_of_not_asked enumerates.listed asked (ids.map fun _ => none) (by simp),
        matching_of_map] at whole
      cases whole
      rw [search_of_not_asked admitted asked (part.map fun _ => none) (by simp), matching_of_map,
        among_filter sublist enumerates.nodup]

end Scoped

/-! ## Both laws -/

/-- How the answers to searches for a type are related that start from one state, with the syntax
that the relations rest on. -/
structure Composes (catalog : Catalog) (host : Host) (entityType : String) (ids : List Id)
    (index : Index) : Prop where
  tokens : ∀ left gap right, Query.IsClosedText left → Query.IsBlankText gap → gap ≠ "" →
    Query.tokenize (left ++ gap ++ right) = Query.tokenize left ++ Query.tokenize right
  padded : ∀ before after text, Query.IsBlankText before → Query.IsBlankText after →
    Query.parse (before ++ text ++ after) = Query.parse text
  ordered : ∀ text scope found, (search catalog host entityType text scope index).1 = .ok found →
    ∃ candidates, host.candidates entityType scope = .ok candidates ∧ found.Sublist candidates
  joined : ∀ left gap right scope found others,
    Query.IsClosedText left → Query.IsBlankText gap → gap ≠ "" →
    (search catalog host entityType (some left) scope index).1 = .ok found →
    (search catalog host entityType (some right) scope index).1 = .ok others →
      (search catalog host entityType (some (left ++ gap ++ right)) scope index).1 =
        .ok (among found others)
  failed : ∀ left gap right scope failure,
    Query.IsClosedText left → Query.IsBlankText gap → gap ≠ "" →
    (search catalog host entityType (some (left ++ gap ++ right)) scope index).1 = .error failure →
      (search catalog host entityType (some left) scope index).1 = .error failure ∨
        (search catalog host entityType (some right) scope index).1 = .error failure
  within : (catalog.settings.reindexOnSearch = true → catalog.IsSteady host entityType) →
    ∀ text scope found candidates,
      (search catalog host entityType text .all index).1 = .ok found →
      host.candidates entityType scope = .ok candidates →
        (search catalog host entityType text scope index).1 = .ok (among found candidates)
  returns : catalog.NeverEnds host entityType →
    index.store.Serves (fun id => (index.store.find? ⟨entityType, id⟩).isSome ∨ id ∈ ids) →
    ∀ text scope candidates, host.candidates entityType scope = .ok candidates →
      ∃ found, (search catalog host entityType text scope index).1 = .ok found

/-- From every state, a search for two texts gives what both give. A search within a scope gives
what the scope admits of all results, if fields can be read again where stale entries are rebuilt. -/
theorem search_composes (catalog : Catalog) (index : Index)
    (enumerates : host.Enumerates entityType ids) :
    Composes catalog host entityType ids index where
  tokens := fun _ _ right closed blank nonempty =>
    Query.tokenize_append closed blank nonempty right
  padded := fun _ _ text blankBefore blankAfter => Query.parse_padded blankBefore blankAfter text
  ordered := by
    intro text scope found searched
    cases candidates : host.candidates entityType scope with
    | error failure =>
        rw [search_of_unlisted candidates] at searched
        cases searched
    | ok values =>
        obtain ⟨part, rfl, -⟩ := enumerates.within candidates
        exact ⟨_, rfl, sublist_of_search candidates searched⟩
  joined := by
    intro left gap right scope found others closed blank nonempty first second
    have joins := Query.joins_append closed blank nonempty right
    exact search_joined (by simpa only [Option.getD_some] using joins) enumerates first second
  failed := by
    intro left gap right scope failure closed blank nonempty failed
    have joins := Query.joins_append closed blank nonempty right
    exact search_joined_failed (by simpa only [Option.getD_some] using joins) enumerates failed
  within := fun steady _ _ _ _ whole admitted => search_within steady enumerates whole admitted
  returns := by
    intro endless serves text scope candidates listed
    obtain ⟨part, rfl, sublist⟩ := enumerates.within listed
    exact search_returns endless listed
      ⟨serves.opened, fun id known => serves.accepts id (known.imp_right sublist.mem)⟩ text

/-! ## A diary -/

/-- Two posts of a user whose name can be read only once. -/
def diary : Host := { Host.empty with
  records := ⟨[(("user", .int 7), ⟨.int 7, .ofList [("name", .stream [.str "needle"] 1)]⟩),
    (("post", .int 1), ⟨.int 1, .ofList [("user_id", .int 7), ("kind", .str "a")]⟩),
    (("post", .int 2), ⟨.int 2, .ofList [("user_id", .int 7), ("kind", .str "b")]⟩)], by simp⟩
  relations := ⟨[(("post", "user"), ⟨"user", "user_id", .belongsTo⟩)], by simp⟩ }

/-- Posts that are searched by one field. -/
def postsBy (rule : Extractor) : Catalog :=
  ⟨default, ⟨true, ⟨[("post", ⟨true, ⟨[("field", ⟨.extractor rule, true⟩)], by simp⟩⟩)], by simp⟩⟩,
    .empty⟩

def kindB : Scope := .equal [(.str "kind", .str "b")]

theorem diary_isKeyed : diary.IsKeyed fun _ => True where
  keyed := by
    intro entityType key record found
    have member := (Table.find?_eq_some_iff _ _ _).1 found
    simp only [diary, List.mem_cons, Prod.mk.injEq, List.not_mem_nil, or_false] at member
    obtain ⟨⟨-, rfl⟩, rfl⟩ | ⟨⟨-, rfl⟩, rfl⟩ | ⟨⟨-, rfl⟩, rfl⟩ := member
    · exact ⟨.int 7, rfl, rfl, trivial⟩
    · exact ⟨.int 1, rfl, rfl, trivial⟩
    · exact ⟨.int 2, rfl, rfl, trivial⟩
  real := rfl

theorem diary_enumerates : diary.Enumerates "post" [.int 1, .int 2] := ⟨rfl, by decide⟩

theorem diary_kindB : diary.candidates "post" kindB = .ok [.int 2] := by
  with_unfolding_all rfl

theorem isClosedText_needle : Query.IsClosedText "needle" := by
  have tokens : Token.scan "needle".toList = [.term (.plain (.word "needle"))] := by decide +kernel
  intro literal member
  rw [tokens] at member
  simp at member

/-- Posts whose text is always the same word. -/
theorem search_composes_diary :
    let catalog := postsBy (.constant (.str "needle"))
    Composes catalog diary "post" [.int 1, .int 2] default ∧
      (search catalog diary "post" (some ("needle" ++ " " ++ "needle")) .all default).1 =
        .ok (among [.int 1, .int 2] [.int 1, .int 2]) ∧
      (search catalog diary "post" (some "needle") kindB default).1 =
        .ok (among [.int 1, .int 2] [.int 2]) := by
  intro catalog
  have composes := search_composes catalog default diary_enumerates
  have whole : (search catalog diary "post" (some "needle") .all default).1 =
      .ok [.int 1, .int 2] := by with_unfolding_all rfl
  have steady : catalog.IsSteady diary "post" := by
    intro id snapshot _ row member value given
    have only : row = ("field", ⟨.extractor (.constant (.str "needle")), true⟩) := by
      simpa [catalog, postsBy, Registry.get, Table.find?] using member
    subst only
    cases given
    exact Value.isSteady_of_solid rfl
  have blank : Query.IsBlankText " " := by decide +kernel
  exact ⟨composes,
    composes.joined "needle" " " "needle" .all _ _ isClosedText_needle blank (by decide) whole
      whole,
    composes.within (fun _ => steady) (some "needle") kindB _ _ whole diary_kindB⟩

/-- A field that can be read only once breaks the second law. The first post that is looked at reads
the name, and no later one finds it: a search of all posts gives the first one, and a search within
a scope gives the first that the scope admits. -/
theorem diary_not_within :
    let catalog := postsBy (.association "user" ["name"])
    diary.IsKeyed (fun _ => True) ∧ (∃ ids, diary.Enumerates "post" ids) ∧
      ¬ ∀ text scope found candidates,
        (search catalog diary "post" text .all default).1 = .ok found →
        diary.candidates "post" scope = .ok candidates →
          (search catalog diary "post" text scope default).1 = .ok (among found candidates) := by
  intro catalog
  refine ⟨diary_isKeyed, diary_isKeyed.enumerates "post", fun within => ?_⟩
  have whole : (search catalog diary "post" (some "needle") .all default).1 = .ok [.int 1] := by
    with_unfolding_all rfl
  have part : (search catalog diary "post" (some "needle") kindB default).1 = .ok [.int 2] := by
    with_unfolding_all rfl
  have nothing : among [.int 1] [.int 2] = [] := by with_unfolding_all rfl
  have admitted := within (some "needle") kindB _ _ whole diary_kindB
  rw [part, nothing] at admitted
  cases admitted

end Index

end ShadowIndex
