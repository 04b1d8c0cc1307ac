import ShadowIndex.Proofs.Store.Lookup

/-!
Contract: a store in memory and one in a database keep one and the same list of entries.

Owns:
- `Request`, all that can be asked of a store, and `Store.perform`, which gives its answer;
- `Listing.attempt`, the same on a plain list;
- `Store.attempt_refines` for one request, and `Store.sessions_agree` for every sequence of them,
  between which a database may be tended, or closed and opened again.

Does not own: what is asked.
-/

set_option autoImplicit false

namespace ShadowIndex

/-- An id that every store can hold: a text, or an integer of 64 bits. -/
def Id.IsSmall : Id → Prop
  | .int whole => -(2 ^ 63) ≤ whole ∧ whole < 2 ^ 63
  | .str _ => True

instance (id : Id) : Decidable id.IsSmall := by
  cases id <;> unfold Id.IsSmall <;> infer_instance

inductive Request where
  | upsert (entry : Entry)
  | get (entityType : String) (id : Id)
  | delete (entityType : String) (id : Id)
  | allFor (entityType : String)
  | allStaleFor (entityType : String)
  | ownerIds (entityType : String)
  | count (entityType : Option String)
  | clear (entityType : Option String)
  | markStale (entityType : String) (id : Id)
  | ensureStale (entityType : String) (id : Id)

/-- The id that a request names. -/
def Request.id? : Request → Option Id
  | upsert entry => some entry.owner.id
  | get _ id | delete _ id | markStale _ id | ensureStale _ id => some id
  | allFor _ | allStaleFor _ | ownerIds _ | count _ | clear _ => none

inductive Answer where
  | done
  | truth (holds : Bool)
  | number (number : Nat)
  | entry (held : Option Entry)
  | entries (listed : List Entry)
  | ids (listed : List Id)

/-- What may happen to a database between requests. -/
inductive Pause where
  | optimize
  | close
  | reopen
deriving DecidableEq

inductive Step where
  | request (request : Request)
  | pause (pause : Pause)

/-! ## Requests -/

namespace Store

/-- The answer to a request, and the store after it. -/
def attempt (store : Store) : Request → Except Failure (Answer × Store)
  | .upsert entry => (store.upsert entry).map fun after => (.done, after)
  | .get entityType id => (store.get entityType id.value).map fun held => (.entry held, store)
  | .delete entityType id =>
      (store.delete entityType id.value).map fun result => (.truth result.1, result.2)
  | .allFor entityType => (store.allFor entityType).map fun listed => (.entries listed, store)
  | .allStaleFor entityType =>
      (store.allStaleFor entityType).map fun listed => (.entries listed, store)
  | .ownerIds entityType => (store.ownerIds entityType).map fun listed => (.ids listed, store)
  | .count entityType => (store.count entityType).map fun counted => (.number counted, store)
  | .clear entityType => (store.clear entityType).map fun result => (.number result.1, result.2)
  | .markStale entityType id =>
      (store.markStale entityType id.value).map fun result => (.truth result.1, result.2)
  | .ensureStale entityType id =>
      (store.ensureStale entityType id.value).map fun result => (.entry (some result.1), result.2)

end Store

namespace Listing

/-- The answer to a request of a list with one entry for each owner, and the list after it. -/
def attempt (listing : List Entry) : Request → Except Failure (Answer × List Entry)
  | .upsert entry => .ok (.done, put entry listing)
  | .get entityType id => .ok (.entry (find? listing ⟨entityType, id⟩), listing)
  | .delete entityType id =>
      .ok (.truth (find? listing ⟨entityType, id⟩).isSome, drop ⟨entityType, id⟩ listing)
  | .allFor entityType => .ok (.entries (ofType entityType listing), listing)
  | .allStaleFor entityType =>
      .ok (.entries ((ofType entityType listing).filter fun entry => entry.content.stale), listing)
  | .ownerIds entityType =>
      .ok (.ids ((ofType entityType listing).map fun entry => entry.owner.id), listing)
  | .count entityType => .ok (.number (part entityType listing).length, listing)
  | .clear entityType => .ok (.number (part entityType listing).length, clear entityType listing)
  | .markStale entityType id =>
      .ok (.truth (find? listing ⟨entityType, id⟩).isSome, flag ⟨entityType, id⟩ listing)
  | .ensureStale entityType id =>
      match find? listing ⟨entityType, id⟩ with
      | some entry => .ok (.entry (some entry.asStale), flag ⟨entityType, id⟩ listing)
      | none =>
          match Entry.placeholder (.str entityType) id.value with
          | .ok entry => .ok (.entry (some entry), listing ++ [entry])
          | .error issues => .error (.invalid Entry.subject issues)

end Listing

/-- Maintenance leaves the rows alone, and so does closing and opening a database on file. -/
def Store.pause (store : Store) : Pause → Store
  | .optimize => store
  | .close => store.close
  | .reopen => store.restart

/-! ## Sessions -/

section Sessions

variable {σ : Type} (attempt : σ → Request → Except Failure (Answer × σ))

/-- Carries a request out; one that fails changes nothing. -/
def Request.perform (request : Request) (state : σ) : Except Failure Answer × σ :=
  match attempt state request with
  | .ok (answer, after) => (.ok answer, after)
  | .error failure => (.error failure, state)

/-- The answers to the requests of a session, and what there is after it. -/
def Step.session (pause : σ → Pause → σ) : List Step → σ → List (Except Failure Answer) × σ
  | [], state => ([], state)
  | .request asked :: rest, state =>
      let (answer, after) := asked.perform attempt state
      let (answers, last) := session pause rest after
      (answer :: answers, last)
  | .pause between :: rest, state => session pause rest (pause state between)

end Sessions

/-- The session of a list, which has nothing to pause. -/
def Listing.session (steps : List Step) : List (Except Failure Answer) × List Entry :=
  Step.session Listing.attempt (fun listing _ => listing) steps []

/-- The session of a store in memory, which has nothing to pause either. -/
def Store.memorySession (steps : List Step) : List (Except Failure Answer) × Store :=
  Step.session Store.attempt (fun store _ => store) steps .emptyMemory

def Store.databaseSession (location : String) (steps : List Step) :
    List (Except Failure Answer) × Store :=
  Step.session Store.attempt Store.pause steps (.database (.create location))

/-! ## One request -/

namespace Store

/-- What a store does with a request if it does what a list of its entries does. -/
inductive Refines (before : Store) :
    Except Failure (Answer × Store) → Except Failure (Answer × List Entry) → Prop
  | answered {answer : Answer} {after : Store} {listing : List Entry}
      (lists : after.Lists listing) (kind : after.kind = before.kind) :
      Refines before (.ok (answer, after)) (.ok (answer, listing))
  | failed {failure : Failure} : Refines before (.error failure) (.error failure)

variable {store : Store} {listing : List Entry}

theorem Lists.clear_eq (lists : store.Lists listing) (opened : store.requireOpen = .ok ())
    (entityType : Option String) :
    ∃ after, store.clear entityType = .ok ((Listing.part entityType listing).length, after) ∧
      after.Lists (Listing.clear entityType listing) ∧ after.kind = store.kind := by
  unfold Store.clear
  rw [lists.count_eq opened]
  cases store with
  | memory kept =>
      rw [lists_memory_iff] at lists
      refine ⟨_, rfl, lists_memory_iff.2 ?_, rfl⟩
      cases entityType with
      | none => rfl
      | some cleared =>
          rw [Listing.clear, ← lists]
          exact kept.contents.listing_filter id fun owner => decide (owner.entityType ≠ cleared)
  | database table =>
      rw [lists_database_iff] at lists
      refine ⟨_, rfl, lists_database_iff.2 ?_, by cases entityType <;> rfl⟩
      cases entityType with
      | none => exact ⟨.nil, rfl⟩
      | some cleared =>
          rw [Listing.clear, ← lists.2]
          exact ⟨lists.1.filter _, table.rows.listing_filter DatabaseRow.content
            fun owner => decide (owner.entityType ≠ cleared)⟩

theorem ensureStale_refines (lists : store.Lists listing) (opened : store.requireOpen = .ok ())
    (entityType : String) {id : Id} (accepts : store.Accepts id) :
    store.Refines (store.attempt (.ensureStale entityType id))
      (Listing.attempt listing (.ensureStale entityType id)) := by
  have found := lists.find?_eq ⟨entityType, id⟩
  rw [attempt, Listing.attempt]
  cases held : Listing.find? listing ⟨entityType, id⟩ with
  | some entry =>
      have present : (store.find? ⟨entityType, id⟩).isSome := by simp [found, held]
      have flagged : store.staleEntry ⟨entityType, id⟩ = entry.asStale := by
        simp [staleEntry, found, held]
      obtain ⟨after, written, placed⟩ := ensureStale_eq_ok opened (Or.inr present) accepts
      have inPlace := Listing.flag_eq_place lists.owners_nodup ⟨entityType, id⟩
      rw [held, Option.map_some] at inPlace
      rw [written, flagged, inPlace]
      rw [flagged] at placed
      exact .answered (placed.lists lists) placed.kind
  | none =>
      have absent : store.find? ⟨entityType, id⟩ = none := found.trans held
      by_cases named : entityType = ""
      · subst named
        obtain ⟨issues, refused⟩ := placeholder_unnamed id
        rw [ensureStale_eq_error opened accepts absent refused, refused]
        exact .failed
      · have fresh : store.staleEntry ⟨entityType, id⟩ = ⟨⟨entityType, id⟩, .placeholder⟩ := by
          simp [staleEntry, absent]
        obtain ⟨after, written, placed⟩ := ensureStale_eq_ok opened (Or.inl named) accepts
        have appended : Listing.put ⟨⟨entityType, id⟩, .placeholder⟩ listing =
            listing ++ [⟨⟨entityType, id⟩, .placeholder⟩] :=
          if_neg ((Listing.find?_eq_none_iff listing ⟨entityType, id⟩).1 held)
        rw [fresh] at written placed
        have listed := placed.lists lists
        rw [Listing.place, appended] at listed
        rw [written, placeholder_value named]
        exact .answered listed placed.kind

/-- Every request of an open store is answered as by the list of its entries, if the store can hold
the id that the request names. -/
theorem attempt_refines (lists : store.Lists listing) (opened : store.requireOpen = .ok ())
    (request : Request) (accepts : ∀ id, request.id? = some id → store.Accepts id) :
    store.Refines (store.attempt request) (Listing.attempt listing request) := by
  cases request with
  | upsert entry =>
      obtain ⟨after, written, placed⟩ := upsert_eq_ok opened (accepts _ rfl)
      rw [attempt, written]
      exact .answered (placed.lists lists) placed.kind
  | get entityType id =>
      rw [attempt, get_value opened entityType (accepts _ rfl), lists.find?_eq]
      exact .answered lists rfl
  | delete entityType id =>
      obtain ⟨after, written, placed⟩ := delete_eq_ok opened entityType (accepts _ rfl)
      rw [attempt, written, lists.find?_eq]
      exact .answered (placed.lists lists) placed.kind
  | allFor entityType =>
      rw [attempt, lists.allFor_eq opened]
      exact .answered lists rfl
  | allStaleFor entityType =>
      rw [attempt, lists.allStaleFor_eq opened]
      exact .answered lists rfl
  | ownerIds entityType =>
      rw [attempt, ownerIds, lists.allFor_eq opened]
      exact .answered lists rfl
  | count entityType =>
      rw [attempt, lists.count_eq opened]
      exact .answered lists rfl
  | clear entityType =>
      obtain ⟨after, cleared, left, kind⟩ := lists.clear_eq opened entityType
      rw [attempt, cleared]
      exact .answered left kind
  | markStale entityType id =>
      obtain ⟨after, written, placed⟩ := markStale_eq_ok opened entityType (accepts _ rfl)
      rw [lists.find?_eq] at written placed
      rw [attempt, written, Listing.attempt, Listing.flag_eq_place lists.owners_nodup]
      exact .answered (placed.lists lists) placed.kind
  | ensureStale entityType id => exact ensureStale_refines lists opened entityType (accepts _ rfl)

/-! ## Ids that a database cannot hold -/

theorem fits_iff (whole : Int) : Database.fits whole = true ↔ (Id.int whole).IsSmall := by
  simp [Database.fits, Id.IsSmall]

theorem unfit_of_not_isSmall {id : Id} (oversized : ¬ id.IsSmall) :
    ∃ whole, id = .int whole ∧ Database.fits whole = false := by
  cases id with
  | int whole => exact ⟨whole, rfl, Bool.eq_false_iff.2 (mt (fits_iff whole).1 oversized)⟩
  | str text => exact absurd trivial oversized

theorem accepts_of_isSmall (store : Store) {id : Id} (small : id.IsSmall) : store.Accepts id := by
  cases store with
  | memory kept => trivial
  | database table =>
      cases id with
      | str text => rfl
      | int whole =>
          simp [Accepts, Database.bindId, (fits_iff whole).2 small]


/-- An open database refuses every request that names an integer of more than 64 bits. -/
theorem attempt_oversized (opened : store.requireOpen = .ok ()) {table : Database}
    (kind : store.kind = (database table).kind) {request : Request} {id : Id}
    (names : request.id? = some id) (oversized : ¬ id.IsSmall) :
    store.attempt request = .error .integerTooLarge := by
  obtain ⟨table, rfl⟩ : ∃ table, store = .database table := by
    cases store with
    | memory kept => cases kind
    | database table => exact ⟨table, rfl⟩
  obtain ⟨whole, rfl, unfit⟩ := unfit_of_not_isSmall oversized
  have ready : table.requireTable = .ok () := opened
  have refused : ¬ (database table).Accepts (.int whole) := by
    simp [Accepts, Database.bindId, unfit]
  have unbound := ownerOf_refused opened refused
  have unread := get_refused opened refused
  cases request with
  | upsert entry =>
      have isWhole : entry.owner.id = .int whole := Option.some.inj names
      simp [attempt, Store.upsert, ready, isWhole, Database.bindId, unfit, bind, Except.bind,
        Except.map]
  | get entityType id =>
      cases names
      rw [attempt, unread]
      rfl
  | delete entityType id =>
      cases names
      simp [attempt, Store.delete, isVacant, unbound, bind, Except.bind, Except.map]
  | markStale entityType id =>
      cases names
      simp [attempt, Store.markStale, unbound, bind, Except.bind, Except.map]
  | ensureStale entityType id =>
      cases names
      simp [attempt, Store.ensureStale, unread, bind, Except.bind, Except.map]
  | allFor _ | allStaleFor _ | ownerIds _ | count _ | clear _ => cases names

/-! ## Sessions of stores -/

/-- One request is answered alike, and leaves the store with the entries of the list. -/
theorem perform_refines (lists : store.Lists listing) (opened : store.requireOpen = .ok ())
    (request : Request) (accepts : ∀ id, request.id? = some id → store.Accepts id) :
    (request.perform Store.attempt store).1 = (request.perform Listing.attempt listing).1 ∧
      (request.perform Store.attempt store).2.Lists (request.perform Listing.attempt listing).2 ∧
      (request.perform Store.attempt store).2.kind = store.kind := by
  have refines := attempt_refines lists opened request accepts
  unfold Request.perform
  generalize store.attempt request = outcome at refines ⊢
  generalize Listing.attempt listing request = reference at refines ⊢
  cases refines with
  | answered left kind => exact ⟨rfl, left, kind⟩
  | failed => exact ⟨rfl, lists, rfl⟩

/-- A session of a store gives the answers of its list and leaves the entries of the list, if the
store can hold the ids that are named and pauses leave its entries alone. -/
theorem session_refines (pause : Store → Pause → Store) {steps : List Step}
    (small : ∀ request, .request request ∈ steps → ∀ id, request.id? = some id → id.IsSmall)
    (lists : store.Lists listing) (opened : store.requireOpen = .ok ())
    (pauses : ∀ between, .pause between ∈ steps → ∀ {before : Store} {kept : List Entry},
      before.kind = store.kind → before.Lists kept →
        (pause before between).kind = store.kind ∧ (pause before between).Lists kept) :
    let reference := Step.session Listing.attempt (fun listing _ => listing) steps listing
    let session := Step.session Store.attempt pause steps store
    session.1 = reference.1 ∧ session.2.Lists reference.2 ∧ session.2.kind = store.kind := by
  induction steps generalizing store listing with
  | nil => exact ⟨rfl, lists, rfl⟩
  | cons step rest inductionHypothesis =>
      have smallRest : ∀ request, .request request ∈ rest → ∀ id, request.id? = some id →
          id.IsSmall := fun request member => small request (List.mem_cons_of_mem _ member)
      cases step with
      | request request =>
          obtain ⟨same, left, kind⟩ := perform_refines lists opened request fun id names =>
            store.accepts_of_isSmall (small request List.mem_cons_self id names)
          obtain ⟨answers, last, lastKind⟩ := inductionHypothesis smallRest left
            ((requireOpen_of_kind kind).trans opened)
            (by rw [kind]; exact fun between member => pauses between (List.mem_cons_of_mem _ member))
          simp only [Step.session, same, answers, true_and]
          exact ⟨last, lastKind.trans kind⟩
      | pause between =>
          obtain ⟨kind, left⟩ := pauses between List.mem_cons_self rfl lists
          obtain ⟨answers, last, lastKind⟩ := inductionHypothesis smallRest left
            ((requireOpen_of_kind kind).trans opened)
            (by rw [kind]; exact fun other member => pauses other (List.mem_cons_of_mem _ member))
          exact ⟨answers, last, lastKind.trans kind⟩

/-- Only a database that is on file is closed and opened again with its entries. -/
theorem pause_keeps {table : Database} {between : Pause}
    (onFile : between ≠ .optimize → table.onFile = true) {before : Store} {kept : List Entry}
    (kind : before.kind = (database table).kind) (lists : before.Lists kept) :
    (before.pause between).kind = (database table).kind ∧ (before.pause between).Lists kept := by
  cases before with
  | memory entries => cases kind
  | database other =>
      have sameFile : other.onFile = table.onFile := by
        simp only [Store.kind, Option.some.injEq, Prod.mk.injEq] at kind
        exact kind.2.1
      have same : (database other).pause between = database other := by
        cases between with
        | optimize => rfl
        | close =>
            have stays := sameFile.trans (onFile (by decide))
            simp only [Store.pause, Store.close, Database.close, stays, if_true]
        | reopen =>
            have stays := sameFile.trans (onFile (by decide))
            simp only [Store.pause, restart, stays, if_true]
      rw [same]
      exact ⟨kind, lists⟩

/-- What a session of a store in memory and one of a database have in common with that of a list. -/
structure Agrees (location : String) (steps : List Step) : Prop where
  memoryAnswers : (memorySession steps).1 = (Listing.session steps).1
  databaseAnswers : (databaseSession location steps).1 = (Listing.session steps).1
  memoryEntries : (memorySession steps).2.entries = (Listing.session steps).2
  databaseEntries : (databaseSession location steps).2.entries = (Listing.session steps).2
  distinct : (Listing.owners (Listing.session steps).2).Nodup
  refuses : ∀ (request : Request) (id : Id), request.id? = some id → ¬ id.IsSmall →
    request.perform attempt (databaseSession location steps).2 =
      (.error .integerTooLarge, (databaseSession location steps).2)

/-- Every session of requests with small ids has the same answers, and leaves the same entries in
the same order, in memory, in a database and in a plain list. A request whose id a database cannot
hold is refused and changes nothing. -/
theorem sessions_agree (location : String) (steps : List Step)
    (small : ∀ request, .request request ∈ steps → ∀ id, request.id? = some id → id.IsSmall)
    (onFile : ∀ between, .pause between ∈ steps → between ≠ .optimize →
      location ≠ Database.memoryLocation) :
    Agrees location steps := by
  have emptyLists : emptyMemory.Lists [] := lists_memory_iff.2 rfl
  have newLists : (database (.create location)).Lists [] :=
    lists_database_iff.2 ⟨Database.isOrdered_create location, rfl⟩
  obtain ⟨inMemory, memoryLists, -⟩ := session_refines (fun store _ => store) small
    emptyLists rfl fun _ _ _ _ kind lists => ⟨kind, lists⟩
  obtain ⟨inDatabase, databaseLists, kind⟩ := session_refines Store.pause small
    newLists rfl fun between member _ _ kind lists =>
      pause_keeps (fun reopens => decide_eq_true (onFile between member reopens)) kind lists
  refine ⟨inMemory, inDatabase, memoryLists.entries, databaseLists.entries,
    memoryLists.owners_nodup, fun request id names oversized => ?_⟩
  have refused : (databaseSession location steps).2.attempt request = .error .integerTooLarge :=
    attempt_oversized (requireOpen_of_kind kind) kind names oversized
  rw [Request.perform, refused]

/-- A session with entries of the integer 1 and the text 1, one removed and written again. -/
theorem sessions_agree_onePost :
    let post (id : Id) : Entry := ⟨⟨"post", id⟩, .ofTexts ⟨"needle", .empty⟩⟩
    let steps : List Step := [.request (.upsert (post (.int 1))), .request (.upsert (post (.str "1"))),
      .pause .close, .request (.delete "post" (.int 1)), .pause .reopen,
      .request (.ensureStale "post" (.int 1)), .request (.ownerIds "post")]
    Agrees "index.db" steps := by
  intro post steps
  refine sessions_agree "index.db" steps ?_ fun _ _ _ => by decide
  intro request member id names
  simp only [steps, List.mem_cons, Step.request.injEq, reduceCtorEq, List.not_mem_nil, or_false,
    false_or] at member
  rcases member with rfl | rfl | rfl | rfl | rfl <;> cases names <;> decide

end Store

end ShadowIndex
