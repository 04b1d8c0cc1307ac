import ShadowIndex.Proofs.Application.Resilience
import ShadowIndex.Proofs.Index.Isolation

/-!
Contract: searches among records that cannot be indexed.

Owns:
- `Application.failures_isolated`: after any run, a search in which look-ups and builds fail gives
  each candidate whose live text matches, and each that cannot be built but is stored with a text
  that matches; it fails only for a candidate whose id the store cannot hold.

Does not own: how entries stay true through a run.
-/

set_option autoImplicit false

namespace ShadowIndex.Application

variable {application : Application} {entityType : String} {turns : List Turn} {scope : Scope}
  {text : Option String}

/-- An application while some records cannot be fetched and some relations cannot be resolved. -/
def during (records : List (String × Value)) (relations : List String) (application : Application) :
    Application :=
  { application with
    host := { application.host with outage := ⟨records, relations, []⟩ }
    sight := Host.source }

theorem IsReliable.during (reliable : application.IsReliable entityType)
    (records : List (String × Value)) (relations : List String) :
    (application.during records relations).IsReliable entityType :=
  ⟨reliable.subscribed, ⟨reliable.keyed.keyed, rfl⟩, reliable.proper, reliable.rebuilds,
    reliable.own, reliable.sound⟩

/-- From the start of an application on, and whatever failed on the way, a search for a query that
is not blank isolates the records that fail now. -/
theorem failures_isolated (blank : application.IsBlank)
    (rebuilds : application.catalog.settings.reindexOnSearch = true)
    (own : application.catalog.ReadsOwn entityType)
    (named : Turn.Along (Turn.Names fun _ => True) application turns)
    (declares : ∀ turn ∈ turns, turn.operation.DeclaresOwn entityType)
    (records : List (String × Value)) (relations : List String)
    (notBlank : (Query.parse (text.getD "")).isBlank = false) :
    let state := (Turn.afterAll application turns).during records relations
    state.catalog.IsSteady state.host entityType →
      state.catalog.NeverEnds state.host entityType →
      ∀ candidates, state.host.candidates entityType scope = .ok candidates →
        ∃ ids : List Id, candidates = ids.map Id.value ∧
          Index.Isolates state.catalog state.host entityType (Query.parse (text.getD "")) ids
            state.store
            (onIndex (fun catalog source => Index.search catalog source entityType text scope)
              state).1 := by
  intro state steady endless candidates listed
  have reliable := (reliable_afterAll (blank.reliable rebuilds own) named declares).during
    records relations
  obtain ⟨all, enumerates⟩ := reliable.keyed.enumerates entityType
  obtain ⟨ids, rfl, -⟩ := enumerates.within listed
  exact ⟨ids, rfl, Index.search_isolates reliable.own reliable.sound steady endless reliable.rebuilds
    reliable.proper listed notBlank⟩

/-! ## A notebook -/

/-- An application with an empty index. -/
def notebook (store : Store) : Application where
  host := .empty
  sight := Host.source
  service := ⟨⟨default, .fresh true, .empty⟩, { (default : Index) with store := store }⟩
  listeners := [.service]
  heard := []

/-- The title of a record. -/
def titleOf : Extractor := .requiredText "title"

/-- Notes are searched by their titles. -/
def titling : Turn := ⟨.define (.str "note") (.str "title") (.extractor titleOf) true, .none⟩

/-- A new note. -/
def jotting (id title : Value) : Turn :=
  ⟨.create "note" (.ofList [("id", id), ("title", title)]), .none⟩

/-- All notes are searched, and the third look-up fails. -/
def lookup : Turn :=
  ⟨.search "note" (some "needle") .all, fun before _ =>
    if before = 2 then some .hostUnavailable else none⟩

/-- Three notes, of which the second has no text for a title. -/
def jottings : List Turn :=
  [titling, jotting (.int 1) (.str "needle"), jotting (.int 2) (.int 7),
    jotting (.int 3) (.str "needle"), lookup]

/-- Two notes, of which the second has an id that no database can hold. -/
def oversized : List Turn :=
  [titling, jotting (.int 1) (.str "needle"), jotting (.int 9223372036854775808) (.str "thread")]

theorem notebook_blank {store : Store} (opened : store.requireOpen = .ok ())
    (unindexed : store.entries = []) : (notebook store).IsBlank where
  subscribed := rfl
  unrecorded := rfl
  real := rfl
  opened := opened
  unindexed := unindexed

theorem notebook_readsOwn (store : Store) : (notebook store).catalog.ReadsOwn "note" := by
  intro row impossible
  cases impossible

section Titles

variable {catalog : Catalog} {host : Host}
variable (rows : (catalog.registry.get "note").fields.rows =
  [("title", ⟨.extractor titleOf, true⟩)])
include rows

theorem isSteady_of_titles : catalog.IsSteady host "note" :=
  Catalog.isSteady_of_texts fun row member => by
    rw [rows, List.mem_singleton] at member
    exact ⟨"title", congrArg (fun row => row.2.source) member⟩

theorem neverEnds_of_titles : catalog.NeverEnds host "note" := by
  apply Catalog.neverEnds_of_values
  intro snapshot row member failure unread
  rw [rows, List.mem_singleton] at member
  subst member
  simp only [Registry.extractValue, titleOf, Extractor.requiredText, Extractor.run] at unread
  split at unread
  · cases unread
  · cases unread
    rfl

end Titles

/-- The first note matches. The second has no text and is not indexed. The third cannot be fetched,
but was indexed before. -/
theorem failures_isolated_jottings :
    let state := (Turn.afterAll (notebook .emptyMemory) jottings).during [("note", .int 3)] []
    let outcome :=
      (onIndex (fun catalog source => Index.search catalog source "note" (some "needle") .all)
        state).1
    Index.Isolates state.catalog state.host "note" (Query.parse "needle") [.int 1, .int 2, .int 3]
      state.store outcome ∧ outcome = .ok [.int 1, .int 3] := by
  intro state outcome
  let jotted := Turn.afterAll (notebook .emptyMemory) (jottings.take 4)
  have looked := indexRuns_onIndex
    (fun catalog source => Index.search catalog source "note" (some "needle") .all)
    (lookup.before jotted)
  have sameCatalog : state.catalog = jotted.catalog := looked.catalog
  have sameRecords : state.host = { jotted.host with outage := ⟨[("note", .int 3)], [], []⟩ } := by
    have sameHost : (Turn.afterAll (notebook .emptyMemory) jottings).host =
        (lookup.before jotted).host := looked.host
    simp only [state, during, sameHost, Turn.before]
  have rows : (state.catalog.registry.get "note").fields.rows =
      [("title", ⟨.extractor titleOf, true⟩)] := by
    rw [sameCatalog]
    with_unfolding_all rfl
  have listed : state.host.candidates "note" .all = .ok [.int 1, .int 2, .int 3] := by
    rw [sameRecords]
    with_unfolding_all rfl
  have named : Turn.Along (Turn.Names fun _ => True) (notebook .emptyMemory) jottings :=
    ⟨trivial, ⟨.int 1, trivial, rfl⟩, ⟨.int 2, trivial, rfl⟩, ⟨.int 3, trivial, rfl⟩, trivial,
      trivial⟩
  have declares : ∀ turn ∈ jottings, turn.operation.DeclaresOwn "note" := by
    simp [jottings, titling, jotting, lookup, Operation.DeclaresOwn, titleOf,
      Extractor.requiredText, Extractor.IsOwn]
  obtain ⟨ids, areIds, isolates⟩ := @failures_isolated (notebook .emptyMemory) "note" jottings .all
    (some "needle") (notebook_blank rfl rfl) rfl (notebook_readsOwn _) named declares
    [("note", .int 3)] [] (by decide +kernel) (isSteady_of_titles rows) (neverEnds_of_titles rows)
    _ listed
  obtain rfl : [Id.int 1, .int 2, .int 3] = ids :=
    List.map_injective_iff.2 (fun _ _ => Id.value_injective) areIds
  have found : [Id.int 1, .int 2, .int 3].filter (Index.isFound state.catalog state.host "note"
      (Query.parse "needle") state.store) = [.int 1, .int 3] := by decide +kernel
  have inMemory : state.store.kind = Store.emptyMemory.kind := by decide +kernel
  have answer := isolates.returns fun _ _ _ => Store.accepts_of_kind inMemory trivial
  exact ⟨isolates, answer.trans (congrArg (fun ids => Except.ok (ids.map Id.value)) found)⟩

/-- A note whose id the database cannot hold fails the search of all notes, though a note matches. -/
theorem oversized_not_isolated :
    let state := (Turn.afterAll (notebook (.database (.create Database.memoryLocation)))
      oversized).during [] []
    let outcome :=
      (onIndex (fun catalog source => Index.search catalog source "note" (some "needle") .all)
        state).1
    Turn.Along (Turn.Names fun _ => True) (notebook (.database (.create Database.memoryLocation)))
        oversized ∧
      (∀ turn ∈ oversized, turn.operation.DeclaresOwn "note") ∧
      state.host.candidates "note" .all = .ok [.int 1, .int 9223372036854775808] ∧
      Index.isFound state.catalog state.host "note" (Query.parse "needle") state.store (.int 1) =
        true ∧
      ¬ ∃ found, outcome = .ok found := by
  intro state outcome
  refine ⟨⟨trivial, ⟨.int 1, trivial, rfl⟩, ⟨.int 9223372036854775808, trivial, rfl⟩, trivial⟩,
    ?_, ?_, ?_, ?_⟩
  · simp [oversized, titling, jotting, Operation.DeclaresOwn, titleOf,
      Extractor.requiredText, Extractor.IsOwn]
  · with_unfolding_all rfl
  · decide +kernel
  · rintro ⟨found, answered⟩
    have failed : outcome.toOption = none := by decide +kernel
    rw [answered] at failed
    cases failed

end ShadowIndex.Application
