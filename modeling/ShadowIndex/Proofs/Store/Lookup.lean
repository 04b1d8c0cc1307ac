import Mathlib.Logic.Function.Basic
import ShadowIndex.Proofs.Store.Listing

/-!
Contract: stores as maps from owners to entries.

Owns:
- `Store.Serves`, stores that are open and can hold certain ids, and `Store.kind`, on which that
  depends;
- `Store.Places`, the change that a write makes: one owner is left an entry, or none;
- what each operation of a store that serves gives, and what it makes of the map.

Does not own: what a change of one owner makes of the list of entries.
-/

set_option autoImplicit false

namespace ShadowIndex

namespace Store

/-- All of a store but its entries. -/
def kind : Store → Option (String × Bool × Bool)
  | memory _ => none
  | database table => some (table.location, table.onFile, table.opened)

/-- Whether a store can hold entries of an id. -/
def Accepts (store : Store) (id : Id) : Prop :=
  match store with
  | memory _ => True
  | database _ => Database.bindId id = .ok ()

/-- An open store that can hold entries of certain ids. -/
structure Serves (store : Store) (ids : Id → Prop) : Prop where
  opened : store.requireOpen = .ok ()
  accepts : ∀ id, ids id → store.Accepts id

variable {store before after : Store}

theorem requireOpen_of_kind (same : after.kind = before.kind) :
    after.requireOpen = before.requireOpen := by
  cases before <;> cases after <;> simp_all [kind, requireOpen, Database.requireTable]

theorem accepts_of_kind (same : after.kind = before.kind) {id : Id} (accepts : before.Accepts id) :
    after.Accepts id := by
  cases before <;> cases after <;> simp_all [kind, Accepts]

theorem Serves.of_kind {ids : Id → Prop} (serves : before.Serves ids)
    (same : after.kind = before.kind) : after.Serves ids where
  opened := (requireOpen_of_kind same).trans serves.opened
  accepts := fun id member => accepts_of_kind same (serves.accepts id member)

/-- A store that became another of its kind, with other entries. -/
structure Becomes (before : Store) (view : Ref → Option Entry) (after : Store) : Prop where
  kind : after.kind = before.kind
  found : after.find? = view

/-- A store that left one owner the given entry, or none, and changed nothing else. -/
structure Places (before : Store) (owner : Ref) (held : Option Entry) (after : Store) : Prop extends
    before.Becomes (Function.update before.find? owner held) after where
  lists : ∀ {listing}, before.Lists listing → after.Lists (Listing.place owner held listing)

/-! ## Single entries -/

theorem owner_of_find? {owner : Ref} {entry : Entry} (found : store.find? owner = some entry) :
    entry.owner = owner := by
  cases store with
  | memory entries =>
      simp only [find?, MemoryStore.find?, Option.map_eq_some_iff] at found
      obtain ⟨content, -, rfl⟩ := found
      rfl
  | database table =>
      simp only [find?, Database.find?, Option.map_eq_some_iff] at found
      obtain ⟨row, -, rfl⟩ := found
      rfl

theorem ownerOf_value (opened : store.requireOpen = .ok ()) (entityType : String) {id : Id}
    (accepts : store.Accepts id) : store.ownerOf entityType id.value = .ok (some ⟨entityType, id⟩) := by
  cases store with
  | memory entries =>
      simp only [ownerOf, MemoryStore.ownerOf, Value.key_value, Except.map, Key.id?_key,
        Option.map_some]
  | database table =>
      have bound : table.bindValue id.value = .ok (some id) := by
        cases id with
        | int whole =>
            simp only [Accepts, Database.bindId] at accepts
            split at accepts
            · rename_i fits
              simp [Database.bindValue, Id.value, fits]
            · simp at accepts
        | str text => rfl
      have ready : table.requireTable = .ok () := opened
      simp only [ownerOf, Database.ownerOf, ready, bound]
      rfl

theorem get_value (opened : store.requireOpen = .ok ()) (entityType : String) {id : Id}
    (accepts : store.Accepts id) :
    store.get entityType id.value = .ok (store.find? ⟨entityType, id⟩) := by
  rw [get, ownerOf_value opened entityType accepts]
  rfl

theorem ownerOf_refused (opened : store.requireOpen = .ok ()) {id : Id}
    (refused : ¬ store.Accepts id) (entityType : String) :
    store.ownerOf entityType id.value = .error .integerTooLarge := by
  cases store with
  | memory entries => exact absurd trivial refused
  | database table =>
      have ready : table.requireTable = .ok () := opened
      cases id with
      | str text => exact absurd rfl refused
      | int whole =>
          have unfit : Database.fits whole = false := by
            simpa [Accepts, Database.bindId] using refused
          simp [ownerOf, Database.ownerOf, ready, Id.value, Database.bindValue, unfit, bind,
            Except.bind]

theorem get_refused (opened : store.requireOpen = .ok ()) {id : Id} (refused : ¬ store.Accepts id)
    (entityType : String) : store.get entityType id.value = .error .integerTooLarge := by
  rw [get, ownerOf_refused opened refused]
  rfl

/-- A look-up that gives something tells that the store is open and can hold the id. -/
theorem serves_of_get {entityType : String} {id : Id} {held : Option Entry}
    (found : store.get entityType id.value = .ok held) :
    store.requireOpen = .ok () ∧ store.Accepts id := by
  cases store with
  | memory entries => exact ⟨rfl, trivial⟩
  | database table =>
      simp only [get, ownerOf, Database.ownerOf] at found
      cases opened : table.requireTable with
      | error failure => simp [opened, bind, Except.bind, Except.map] at found
      | ok done =>
          refine ⟨opened, ?_⟩
          cases id with
          | str text => rfl
          | int whole =>
              by_cases fits : Database.fits whole = true
              · simp [Accepts, Database.bindId, fits]
              · simp [opened, bind, Except.bind, Except.map, Database.bindValue, Id.value, fits]
                  at found

/-- A store that serves takes an entry in place of the one that its owner has. -/
theorem upsert_eq_ok (opened : store.requireOpen = .ok ()) {entry : Entry}
    (accepts : store.Accepts entry.owner.id) :
    ∃ after, store.upsert entry = .ok after ∧ store.Places entry.owner (some entry) after := by
  cases store with
  | memory entries =>
      refine ⟨_, rfl, ⟨rfl, funext fun owner => ?_⟩, fun lists => lists.upsert rfl⟩
      simp only [find?, MemoryStore.find?_upsert, Function.update_apply]
  | database table =>
      have ready : table.requireTable = .ok () := opened
      have bound : Database.bindId entry.owner.id = .ok () := accepts
      have written : (Store.database table).upsert entry = .ok (.database (table.upsert entry)) := by
        simp only [upsert, ready, bound]
        rfl
      refine ⟨_, written, ⟨rfl, funext fun owner => ?_⟩, fun lists => lists.upsert written⟩
      simp only [find?, Database.find?_upsert, Function.update_apply]

theorem places_erase (store : Store) (owner : Ref) :
    store.Places owner none (store.erase owner) := by
  refine ⟨?_, fun lists => lists.erase owner⟩
  cases store with
  | memory entries =>
      refine ⟨rfl, funext fun other => ?_⟩
      simp only [erase, find?, MemoryStore.find?_erase, Function.update_apply]
  | database table =>
      refine ⟨rfl, funext fun other => ?_⟩
      simp only [erase, find?, Database.find?_erase, Function.update_apply]

theorem places_of_unchanged {owner : Ref} {entry : Option Entry}
    (held : store.find? owner = entry) : store.Places owner entry store := by
  subst held
  refine ⟨⟨rfl, (Function.update_eq_self _ _).symm⟩, fun lists => ?_⟩
  rw [lists.find?_eq, Listing.place_find? lists.owners_nodup]
  exact lists

theorem find?_of_isVacant (vacant : store.isVacant = true) (owner : Ref) :
    store.find? owner = none := by
  cases store with
  | memory entries =>
      have noRows : entries.contents.rows = [] := by
        simpa [isVacant, MemoryStore.entries] using vacant
      simp [find?, MemoryStore.find?, Table.find?, noRows]
  | database table => simp [isVacant] at vacant

/-- After a removal the owner has no entry. -/
theorem delete_eq_ok (opened : store.requireOpen = .ok ()) (entityType : String) {id : Id}
    (accepts : store.Accepts id) :
    ∃ after, store.delete entityType id.value =
        .ok ((store.find? ⟨entityType, id⟩).isSome, after) ∧
      store.Places ⟨entityType, id⟩ none after := by
  unfold delete
  by_cases vacant : store.isVacant = true
  · have held := find?_of_isVacant vacant ⟨entityType, id⟩
    refine ⟨store, ?_, places_of_unchanged held⟩
    simp [vacant, held, pure, Except.pure]
  · simp only [vacant, Bool.false_eq_true, if_false, ownerOf_value opened entityType accepts]
    cases held : store.find? ⟨entityType, id⟩ with
    | none => exact ⟨store, by simp [bind, Except.bind, held, pure, Except.pure],
        places_of_unchanged held⟩
    | some entry => exact ⟨store.erase ⟨entityType, id⟩,
        by simp [bind, Except.bind, held, pure, Except.pure], places_erase store _⟩

theorem places_flagStale (store : Store) (owner : Ref) :
    store.Places owner ((store.find? owner).map Entry.asStale) (store.flagStale owner) := by
  refine ⟨?_, fun lists => ?_⟩
  · cases store with
    | memory entries =>
        cases held : entries.find? owner with
        | none =>
            have same : (Store.memory entries).flagStale owner = .memory entries := by
              simp only [flagStale, held]
            rw [same]
            exact (places_of_unchanged (by simp [find?, held])).toBecomes
        | some entry =>
            by_cases stale : entry.content.stale = true
            · have same : (Store.memory entries).flagStale owner = .memory entries := by
                simp only [flagStale, held, stale, if_true]
              rw [same]
              exact (places_of_unchanged
                (by simp [find?, held, Entry.asStale_of_stale stale])).toBecomes
            · have isOwner : entry.owner = owner :=
                @owner_of_find? (.memory entries) owner entry held
              have written : (Store.memory entries).flagStale owner =
                  .memory (entries.upsert entry.asStale) := by
                simp only [flagStale, held, stale, Bool.false_eq_true, if_false]
              rw [written]
              refine ⟨rfl, funext fun other => ?_⟩
              have sameOwner : entry.asStale.owner = owner := isOwner
              simp only [find?, MemoryStore.find?_upsert, sameOwner, held, Option.map_some,
                Function.update_apply]
    | database table =>
        refine ⟨rfl, funext fun other => ?_⟩
        simp only [flagStale, find?, Database.find?_flagStale, Function.update_apply]
  · rw [lists.find?_eq, ← Listing.flag_eq_place lists.owners_nodup]
    exact lists.flagStale owner

/-- After flagging, the entry of the owner is stale, if there is one. -/
theorem markStale_eq_ok (opened : store.requireOpen = .ok ()) (entityType : String) {id : Id}
    (accepts : store.Accepts id) :
    ∃ after, store.markStale entityType id.value =
        .ok ((store.find? ⟨entityType, id⟩).isSome, after) ∧
      store.Places ⟨entityType, id⟩ ((store.find? ⟨entityType, id⟩).map Entry.asStale) after := by
  refine ⟨_, ?_, places_flagStale store _⟩
  unfold markStale
  rw [ownerOf_value opened entityType accepts]
  rfl

/-- The stale entry that an owner has once it is ensured. -/
def staleEntry (store : Store) (owner : Ref) : Entry :=
  ((store.find? owner).map Entry.asStale).getD ⟨owner, .placeholder⟩

theorem staleEntry_stale (store : Store) (owner : Ref) :
    (store.staleEntry owner).content.stale = true := by
  cases held : store.find? owner <;>
    simp [staleEntry, held, Entry.asStale, Content.asStale, Content.placeholder]

theorem owner_of_staleEntry (store : Store) (owner : Ref) :
    (store.staleEntry owner).owner = owner := by
  cases held : store.find? owner with
  | none => simp [staleEntry, held]
  | some entry =>
      have isOwner := owner_of_find? held
      simpa [staleEntry, held, Entry.asStale] using isOwner

theorem placeholder_value {entityType : String} (named : entityType ≠ "") (id : Id) :
    Entry.placeholder (.str entityType) id.value = .ok ⟨⟨entityType, id⟩, .placeholder⟩ := by
  have isName : Value.checkName ["owner_type"] (.str entityType) = .ok entityType := by
    have notEmpty : entityType.isEmpty = false := by simpa using named
    simp [Value.checkName, Value.checkText, bind, Except.bind, notEmpty]
  simp [Entry.placeholder, Entry.checkOwner, isName, Checked.both, Except.map]

theorem placeholder_unnamed (id : Id) :
    ∃ issues, Entry.placeholder (.str "") id.value = .error issues := by
  simp [Entry.placeholder, Entry.checkOwner, Value.checkName, Value.checkText, bind, Except.bind,
    Checked.wrong, Checked.both, Except.map]

/-- An entry that is ensured is stale. A type without a name has no placeholders. -/
theorem ensureStale_eq_ok (opened : store.requireOpen = .ok ()) {entityType : String} {id : Id}
    (possible : entityType ≠ "" ∨ (store.find? ⟨entityType, id⟩).isSome)
    (accepts : store.Accepts id) :
    ∃ after, store.ensureStale entityType id.value =
        .ok (store.staleEntry ⟨entityType, id⟩, after) ∧
      store.Places ⟨entityType, id⟩ (some (store.staleEntry ⟨entityType, id⟩)) after := by
  unfold ensureStale
  simp only [get_value opened entityType accepts]
  cases held : store.find? ⟨entityType, id⟩ with
  | none =>
      have fresh : store.staleEntry ⟨entityType, id⟩ = ⟨⟨entityType, id⟩, .placeholder⟩ := by
        simp [staleEntry, held]
      have acceptsOwner : store.Accepts (⟨⟨entityType, id⟩, .placeholder⟩ : Entry).owner.id :=
        accepts
      obtain ⟨after, written, placed⟩ := upsert_eq_ok opened acceptsOwner
      have named : entityType ≠ "" := possible.resolve_right (by simp [held])
      rw [fresh]
      refine ⟨after, ?_, placed⟩
      simp only [bind, Except.bind, placeholder_value named, written]
      rfl
  | some entry =>
      have isOwner : entry.owner = ⟨entityType, id⟩ := owner_of_find? held
      have flagged : store.staleEntry ⟨entityType, id⟩ = entry.asStale := by
        simp [staleEntry, held]
      rw [flagged]
      by_cases stale : entry.content.stale = true
      · rw [Entry.asStale_of_stale stale]
        exact ⟨store, by simp [bind, Except.bind, stale, pure, Except.pure],
          places_of_unchanged held⟩
      · have acceptsOwner : store.Accepts entry.asStale.owner.id := by
          rw [show entry.asStale.owner = _ from isOwner]
          exact accepts
        obtain ⟨after, written, placed⟩ := upsert_eq_ok opened acceptsOwner
        refine ⟨after, ?_, ?_⟩
        · simp [bind, Except.bind, stale, written, pure, Except.pure]
        · rw [← show entry.asStale.owner = _ from isOwner]
          exact placed

theorem ensureStale_eq_error (opened : store.requireOpen = .ok ()) {entityType : String} {id : Id}
    (accepts : store.Accepts id) (absent : store.find? ⟨entityType, id⟩ = none) {issues : List Issue}
    (refused : Entry.placeholder (.str entityType) id.value = .error issues) :
    store.ensureStale entityType id.value = .error (.invalid Entry.subject issues) := by
  unfold ensureStale
  simp only [get_value opened entityType accepts, absent, bind, Except.bind, refused]
  rfl

/-! ## Listings -/

theorem mem_entries_iff (store : Store) (entry : Entry) :
    entry ∈ store.entries ↔ store.find? entry.owner = some entry := by
  obtain ⟨owner, content⟩ := entry
  cases store with
  | memory kept =>
      simp only [entries, MemoryStore.entries, find?, MemoryStore.find?, List.mem_map,
        Option.map_eq_some_iff, Entry.mk.injEq]
      constructor
      · rintro ⟨row, member, rfl, rfl⟩
        exact ⟨row.2, (Table.find?_eq_some_iff _ _ _).2 member, trivial, rfl⟩
      · rintro ⟨held, found, -, rfl⟩
        exact ⟨(owner, held), (Table.find?_eq_some_iff _ _ _).1 found, rfl, rfl⟩
  | database table =>
      simp only [entries, Database.entries, Database.ordered, find?, Database.find?,
        List.mem_map, List.mem_mergeSort, Option.map_eq_some_iff, Entry.mk.injEq]
      constructor
      · rintro ⟨row, member, rfl, rfl⟩
        exact ⟨row.2, (Table.find?_eq_some_iff _ _ _).2 member, trivial, rfl⟩
      · rintro ⟨held, found, -, rfl⟩
        exact ⟨(owner, held), (Table.find?_eq_some_iff _ _ _).1 found, rfl, rfl⟩

theorem find?_of_unindexed (unindexed : store.entries = []) (owner : Ref) :
    store.find? owner = none := by
  cases held : store.find? owner with
  | none => rfl
  | some entry =>
      have listed := (mem_entries_iff store entry).2 (by rw [owner_of_find? held, held])
      rw [unindexed] at listed
      cases listed

/-- The listing of a type holds exactly its entries. -/
theorem allFor_eq_ok (opened : store.requireOpen = .ok ()) (entityType : String) :
    ∃ listed, store.allFor entityType = .ok listed ∧
      ∀ entry, entry ∈ listed ↔
        store.find? entry.owner = some entry ∧ entry.owner.entityType = entityType := by
  refine ⟨store.entries.filter fun entry => decide (entry.owner.entityType = entityType), ?_, ?_⟩
  · unfold allFor
    rw [opened]
    cases store <;> rfl
  · intro entry
    rw [List.mem_filter, mem_entries_iff, decide_eq_true_eq]

theorem ownerIds_eq_ok (opened : store.requireOpen = .ok ()) (entityType : String) :
    ∃ listed, store.ownerIds entityType = .ok listed ∧
      ∀ id, id ∈ listed ↔ (store.find? ⟨entityType, id⟩).isSome = true := by
  obtain ⟨listed, listing, isEntry⟩ := allFor_eq_ok opened entityType
  refine ⟨listed.map fun entry => entry.owner.id, by rw [ownerIds, listing]; rfl, ?_⟩
  intro id
  rw [List.mem_map, Option.isSome_iff_exists]
  constructor
  · rintro ⟨entry, member, rfl⟩
    obtain ⟨found, isType⟩ := (isEntry entry).1 member
    exact ⟨entry, by rw [← found, ← isType]⟩
  · rintro ⟨entry, found⟩
    have isOwner := owner_of_find? found
    exact ⟨entry, (isEntry entry).2 ⟨by rw [isOwner]; exact found, by rw [isOwner]⟩, by rw [isOwner]⟩

/-- The owners of the stale entries of a type. -/
theorem allStaleFor_eq_ok (opened : store.requireOpen = .ok ()) (entityType : String) :
    ∃ listed, store.allStaleFor entityType = .ok listed ∧
      ∀ id, id ∈ listed.map (fun entry => entry.owner.id) ↔
        (store.find? ⟨entityType, id⟩).any (fun entry => entry.content.stale) = true := by
  obtain ⟨listed, listing, isEntry⟩ := allFor_eq_ok opened entityType
  refine ⟨listed.filter fun entry => entry.content.stale, by rw [allStaleFor_eq, listing]; rfl, ?_⟩
  intro id
  simp only [List.mem_map, List.mem_filter, isEntry, Option.any_eq_true]
  constructor
  · rintro ⟨entry, ⟨⟨found, isType⟩, stale⟩, rfl⟩
    exact ⟨entry, by rw [← found, ← isType], stale⟩
  · rintro ⟨entry, found, stale⟩
    have isOwner := owner_of_find? found
    exact ⟨entry, ⟨⟨by rw [isOwner]; exact found, by rw [isOwner]⟩, stale⟩, by rw [isOwner]⟩

end Store

end ShadowIndex
