import Mathlib.Data.List.Nodup
import ShadowIndex.Store.Basic

/-!
Contract: stores as lists of entries, in order of insertion.

Owns:
- `Listing.put`, `Listing.drop` and `Listing.flag`, changes of a list with one entry for each owner;
- `Store.Lists`, stores whose entries are such a list, and what each change makes of it.

Main rule: rows of a database stand in the order of their numbers, since a new row has the greatest
one and no row changes its own.

Does not own: which ids a store can hold.
-/

set_option autoImplicit false

namespace ShadowIndex

/-- Flagging an entry that is stale changes nothing. -/
theorem Entry.asStale_of_stale {entry : Entry} (stale : entry.content.stale = true) :
    entry.asStale = entry := by
  obtain ⟨owner, fullText, fieldTexts, flag, built⟩ := entry
  simp only at stale
  subst stale
  rfl

namespace Listing

/-- The owners of entries, in order. -/
def owners (listing : List Entry) : List Ref := listing.map Entry.owner

def find? (listing : List Entry) (owner : Ref) : Option Entry :=
  listing.find? fun entry => decide (entry.owner = owner)

/-- Replaces the entry of an owner where it stands, and appends one of a new owner. -/
def put (entry : Entry) (listing : List Entry) : List Entry :=
  if entry.owner ∈ owners listing then
    listing.map fun present => if present.owner = entry.owner then entry else present
  else listing ++ [entry]

def drop (owner : Ref) (listing : List Entry) : List Entry :=
  listing.filter fun entry => decide (entry.owner ≠ owner)

/-- Flags the entry of an owner where it stands. -/
def flag (owner : Ref) (listing : List Entry) : List Entry :=
  listing.map fun entry => if entry.owner = owner then entry.asStale else entry

def ofType (entityType : String) (listing : List Entry) : List Entry :=
  listing.filter fun entry => decide (entry.owner.entityType = entityType)

/-- Leaves nothing, or the entries of all types but one. -/
def clear : Option String → List Entry → List Entry
  | none, _ => []
  | some entityType, listing =>
      listing.filter fun entry => decide (entry.owner.entityType ≠ entityType)

/-- The entries of a type, or all. -/
def part : Option String → List Entry → List Entry
  | none, listing => listing
  | some entityType, listing => ofType entityType listing

/-- Leaves an owner the given entry, or none. -/
def place (owner : Ref) (held : Option Entry) (listing : List Entry) : List Entry :=
  match held with
  | none => drop owner listing
  | some entry => put entry listing

variable {listing : List Entry} {owner : Ref} {entry : Entry}

theorem mem_owners_of_mem (member : entry ∈ listing) : entry.owner ∈ owners listing :=
  List.mem_map_of_mem member

theorem find?_eq_none_iff (listing : List Entry) (owner : Ref) :
    find? listing owner = none ↔ owner ∉ owners listing := by
  simp only [find?, owners, List.find?_eq_none, List.mem_map, decide_eq_true_eq]
  constructor
  · rintro absent ⟨entry, member, same⟩
    exact absent entry member same
  · intro absent entry member same
    exact absent ⟨entry, member, same⟩

theorem owner_of_find? (found : find? listing owner = some entry) : entry.owner = owner := by
  simpa using List.find?_some found

/-- With one entry for each owner, the entry that is found is the one that is listed. -/
theorem eq_of_find? (nodup : (owners listing).Nodup) (found : find? listing owner = some entry)
    {other : Entry} (member : other ∈ listing) (same : other.owner = owner) : other = entry := by
  have listed : entry ∈ listing := List.mem_of_find?_eq_some found
  have sameOwner : other.owner = entry.owner := same.trans (owner_of_find? found).symm
  exact List.inj_on_of_nodup_map nodup member listed sameOwner

theorem find?_of_mem (nodup : (owners listing).Nodup) (member : entry ∈ listing) :
    find? listing entry.owner = some entry := by
  cases found : find? listing entry.owner with
  | none => exact absurd (mem_owners_of_mem member) ((find?_eq_none_iff _ _).1 found)
  | some other => rw [eq_of_find? nodup found member rfl]

theorem drop_eq_self (absent : owner ∉ owners listing) : drop owner listing = listing := by
  refine List.filter_eq_self.2 fun entry member => ?_
  have different : entry.owner ≠ owner := fun same => absent (same ▸ mem_owners_of_mem member)
  simpa using different

/-- A list in which every entry of the owner is stale stays as it is. -/
theorem flag_eq_self
    (settled : ∀ entry ∈ listing, entry.owner = owner → entry.content.stale = true) :
    flag owner listing = listing := by
  have kept : ∀ entry ∈ listing,
      (if entry.owner = owner then entry.asStale else entry) = id entry := by
    intro entry member
    split
    · rename_i same
      exact Entry.asStale_of_stale (settled entry member same)
    · rfl
  rw [flag, List.map_congr_left kept, List.map_id]

/-- Putting the stale copy of the entry that is there flags it. -/
theorem put_asStale (nodup : (owners listing).Nodup) (found : find? listing owner = some entry) :
    put entry.asStale listing = flag owner listing := by
  have sameOwner : entry.asStale.owner = entry.owner := rfl
  have present : entry.owner ∈ owners listing :=
    mem_owners_of_mem (List.mem_of_find?_eq_some found)
  rw [put, sameOwner, if_pos present, owner_of_find? found, flag]
  refine List.map_congr_left fun other member => ?_
  by_cases same : other.owner = owner
  · rw [if_pos same, if_pos same, eq_of_find? nodup found member same]
  · rw [if_neg same, if_neg same]

theorem flag_eq_place (nodup : (owners listing).Nodup) (owner : Ref) :
    flag owner listing = place owner ((find? listing owner).map Entry.asStale) listing := by
  cases found : find? listing owner with
  | none =>
      have absent := (find?_eq_none_iff listing owner).1 found
      have settled : ∀ entry ∈ listing, entry.owner = owner → entry.content.stale = true :=
        fun entry member same => absurd (same ▸ mem_owners_of_mem member) absent
      exact (flag_eq_self settled).trans (drop_eq_self absent).symm
  | some entry => exact (put_asStale nodup found).symm

/-- An owner that is left what it has leaves the list as it is. -/
theorem place_find? (nodup : (owners listing).Nodup) (owner : Ref) :
    place owner (find? listing owner) listing = listing := by
  cases found : find? listing owner with
  | none => exact drop_eq_self ((find?_eq_none_iff listing owner).1 found)
  | some entry =>
      have present : entry.owner ∈ owners listing :=
        mem_owners_of_mem (List.mem_of_find?_eq_some found)
      have kept : ∀ other ∈ listing,
          (if other.owner = entry.owner then entry else other) = id other := by
        intro other member
        split
        · rename_i same
          exact (eq_of_find? nodup found member (same.trans (owner_of_find? found))).symm
        · rfl
      rw [place, put, if_pos present, List.map_congr_left kept, List.map_id]

end Listing

/-! ## Tables of entries -/

namespace Table

variable {α : Type} (read : α → Content)

/-- The entries of a table, in order of its rows. -/
def listing (table : Table Ref α) : List Entry := table.rows.map fun row => ⟨row.1, read row.2⟩

variable (table : Table Ref α)

theorem owners_listing : Listing.owners (table.listing read) = table.keys := by
  simp [Listing.owners, listing, keys, Function.comp_def]

theorem find?_listing (owner : Ref) :
    Listing.find? (table.listing read) owner =
      (table.find? owner).map fun value => ⟨owner, read value⟩ := by
  simp only [Listing.find?, listing, find?, List.find?_map, Function.comp_def, Option.map_map]
  cases found : table.rows.find? fun row => decide (row.1 = owner) with
  | none => rfl
  | some row =>
      have isOwner : row.1 = owner := by simpa using List.find?_some found
      simp [isOwner]

theorem listing_insert (owner : Ref) (value : α) :
    (table.insert owner value).listing read =
      Listing.put ⟨owner, read value⟩ (table.listing read) := by
  rw [Listing.put, owners_listing]
  by_cases present : owner ∈ table.keys
  · rw [if_pos present, insert, dif_neg (fun absent => absent present)]
    simp only [listing, modify, mapValues, List.map_map]
    refine List.map_congr_left fun row _ => ?_
    by_cases same : row.1 = owner <;> simp [same]
  · rw [if_neg present, insert, dif_pos present]
    simp [listing, append]

theorem listing_filter (keep : Ref → Bool) :
    (table.filter fun row => keep row.1).listing read =
      (table.listing read).filter fun entry => keep entry.owner := by
  simp [listing, filter, List.filter_map, Function.comp_def]

theorem listing_erase (owner : Ref) :
    (table.erase owner).listing read = Listing.drop owner (table.listing read) :=
  table.listing_filter read fun present => decide (present ≠ owner)

theorem listing_modify (owner : Ref) (change : α → α)
    (flags : ∀ value, read (change value) = (read value).asStale) :
    (table.modify owner change).listing read = Listing.flag owner (table.listing read) := by
  simp only [listing, modify, mapValues, Listing.flag, List.map_map]
  refine List.map_congr_left fun row _ => ?_
  by_cases same : row.1 = owner
  · simp [same, flags, Entry.asStale]
  · simp [same]

end Table

/-! ## Numbered rows -/

namespace Database

variable {database : Database}

/-- The rows stand in the order of their numbers. -/
def IsOrdered (database : Database) : Prop :=
  database.rows.rows.Pairwise fun left right => left.2.number < right.2.number

theorem isOrdered_create (location : String) : (create location).IsOrdered := .nil

theorem entries_of_isOrdered (ordered : database.IsOrdered) :
    database.entries = database.rows.listing DatabaseRow.content := by
  have sorted : database.rows.rows.Pairwise fun left right =>
      decide (left.2.number ≤ right.2.number) = true :=
    ordered.imp fun below => decide_eq_true (Nat.le_of_lt below)
  rw [entries, Database.ordered, List.mergeSort_of_pairwise sorted, Table.listing]

private theorem le_foldl_max (rows : List DatabaseRow) (start : Nat) :
    start ≤ rows.foldl (fun greatest row => max greatest row.number) start ∧
      ∀ row ∈ rows, row.number ≤ rows.foldl (fun greatest row => max greatest row.number) start := by
  induction rows generalizing start with
  | nil => simp
  | cons first rest inductionHypothesis =>
      obtain ⟨above, bounds⟩ := inductionHypothesis (max start first.number)
      refine ⟨by simp only [List.foldl_cons]; omega, fun row member => ?_⟩
      rcases List.mem_cons.1 member with rfl | later
      · simp only [List.foldl_cons]
        omega
      · exact bounds row later

/-- A new row has a number above that of every row. -/
theorem number_lt_nextNumber {row : Ref × DatabaseRow} (member : row ∈ database.rows.rows) :
    row.2.number < database.nextNumber :=
  Nat.lt_succ_of_le ((le_foldl_max database.rows.values 0).2 row.2 (List.mem_map_of_mem member))

/-- Values that keep their numbers keep their order. -/
theorem isOrdered_modify (ordered : database.IsOrdered) (owner : Ref)
    {change : DatabaseRow → DatabaseRow}
    (keeps : ∀ row, database.rows.find? owner = some row → (change row).number = row.number) :
    { database with rows := database.rows.modify owner change }.IsOrdered := by
  have numbers : ∀ row ∈ database.rows.rows,
      (if row.1 = owner then change row.2 else row.2).number = row.2.number := by
    intro row member
    split
    · rename_i same
      exact keeps row.2 ((Table.find?_eq_some_iff _ _ _).2 (same ▸ member))
    · rfl
  refine List.pairwise_map.2 (ordered.imp_of_mem fun {left right} isLeft isRight below => ?_)
  simp only [numbers left isLeft, numbers right isRight]
  exact below

/-- A row that is there keeps its number, and a new one comes after all others. -/
theorem IsOrdered.upsert (ordered : database.IsOrdered) (entry : Entry) :
    (database.upsert entry).IsOrdered := by
  cases found : database.rows.find? entry.owner with
  | none =>
      have absent := (Table.find?_eq_none_iff _ _).1 found
      simp only [IsOrdered, Database.upsert, found, Table.insert, dif_pos absent, Table.append]
      refine List.pairwise_append.2 ⟨ordered, List.pairwise_singleton _ _, fun row member last isLast => ?_⟩
      rw [List.mem_singleton.1 isLast]
      exact number_lt_nextNumber member
  | some held =>
      have present : entry.owner ∈ database.rows.keys := by
        refine not_not.1 fun absent => ?_
        rw [(Table.find?_eq_none_iff _ _).2 absent] at found
        cases found
      simp only [Database.upsert, found, Table.insert, dif_neg (not_not.2 present)]
      refine isOrdered_modify ordered entry.owner fun row isRow => ?_
      rw [found] at isRow
      cases isRow
      rfl

theorem IsOrdered.filter (ordered : database.IsOrdered) (keep : Ref × DatabaseRow → Bool) :
    { database with rows := database.rows.filter keep }.IsOrdered :=
  List.Pairwise.sublist List.filter_sublist ordered

end Database

/-! ## Stores -/

namespace Store

/-- Rows of a database stand in the order of their numbers. -/
def IsOrdered : Store → Prop
  | memory _ => True
  | database table => table.IsOrdered

/-- An ordered store with these entries. -/
structure Lists (store : Store) (listing : List Entry) : Prop where
  ordered : store.IsOrdered
  entries : store.entries = listing

variable {store : Store} {listing : List Entry}

theorem lists_memory_iff {kept : MemoryStore} :
    (memory kept).Lists listing ↔ kept.contents.listing id = listing :=
  ⟨fun lists => lists.entries, fun same => ⟨trivial, same⟩⟩

theorem lists_database_iff {table : Database} :
    (database table).Lists listing ↔
      table.IsOrdered ∧ table.rows.listing DatabaseRow.content = listing := by
  constructor
  · rintro ⟨ordered, entries⟩
    exact ⟨ordered, (Database.entries_of_isOrdered ordered).symm.trans entries⟩
  · rintro ⟨ordered, entries⟩
    exact ⟨ordered, (Database.entries_of_isOrdered ordered).trans entries⟩

theorem Lists.owners_nodup (lists : store.Lists listing) : (Listing.owners listing).Nodup := by
  cases store with
  | memory kept =>
      rw [← lists_memory_iff.1 lists, Table.owners_listing]
      exact kept.contents.nodup
  | database table =>
      rw [← (lists_database_iff.1 lists).2, Table.owners_listing]
      exact table.rows.nodup

theorem Lists.find?_eq (lists : store.Lists listing) (owner : Ref) :
    store.find? owner = Listing.find? listing owner := by
  cases store with
  | memory kept =>
      rw [← lists_memory_iff.1 lists, Table.find?_listing]
      rfl
  | database table =>
      rw [← (lists_database_iff.1 lists).2, Table.find?_listing]
      rfl

theorem Lists.upsert (lists : store.Lists listing) {entry : Entry} {after : Store}
    (written : store.upsert entry = .ok after) : after.Lists (Listing.put entry listing) := by
  cases store with
  | memory kept =>
      cases written
      rw [lists_memory_iff] at lists ⊢
      rw [← lists, MemoryStore.upsert, Table.listing_insert]
      rfl
  | database table =>
      have isUpsert : after = .database (table.upsert entry) := by
        simp only [Store.upsert, bind, Except.bind] at written
        split at written
        · cases written
        · split at written
          · cases written
          · simpa [pure, Except.pure] using written.symm
      subst isUpsert
      rw [lists_database_iff] at lists ⊢
      refine ⟨lists.1.upsert entry, ?_⟩
      rw [← lists.2, Database.upsert, Table.listing_insert, DatabaseRow.content_write]

theorem Lists.erase (lists : store.Lists listing) (owner : Ref) :
    (store.erase owner).Lists (Listing.drop owner listing) := by
  cases store with
  | memory kept =>
      rw [lists_memory_iff] at lists
      rw [Store.erase, lists_memory_iff, ← lists, MemoryStore.erase, Table.listing_erase]
  | database table =>
      rw [lists_database_iff] at lists
      rw [Store.erase, lists_database_iff, ← lists.2, Database.erase, Table.listing_erase]
      exact ⟨lists.1.filter _, rfl⟩

theorem Lists.flagStale (lists : store.Lists listing) (owner : Ref) :
    (store.flagStale owner).Lists (Listing.flag owner listing) := by
  cases store with
  | memory kept =>
      have found := lists.find?_eq owner
      have nodup := lists.owners_nodup
      cases held : kept.find? owner with
      | none =>
          have absent := (Listing.find?_eq_none_iff listing owner).1 (found.symm.trans held)
          have settled : ∀ entry ∈ listing, entry.owner = owner → entry.content.stale = true :=
            fun entry member same => absurd (same ▸ Listing.mem_owners_of_mem member) absent
          simp only [Store.flagStale, held, Listing.flag_eq_self settled]
          exact lists
      | some entry =>
          have listed := found.symm.trans held
          by_cases stale : entry.content.stale = true
          · have settled : ∀ other ∈ listing, other.owner = owner → other.content.stale = true :=
              fun other member same => Listing.eq_of_find? nodup listed member same ▸ stale
            simp only [Store.flagStale, held, stale, if_true, Listing.flag_eq_self settled]
            exact lists
          · simp only [Store.flagStale, held, stale, Bool.false_eq_true, if_false]
            rw [← Listing.put_asStale nodup listed]
            exact lists.upsert rfl
  | database table =>
      rw [lists_database_iff] at lists
      rw [Store.flagStale, lists_database_iff, ← lists.2, Database.flagStale,
        Table.listing_modify DatabaseRow.content table.rows owner _ DatabaseRow.content_asStale]
      exact ⟨Database.isOrdered_modify lists.1 owner fun _ _ => rfl, rfl⟩

theorem Lists.allFor_eq (lists : store.Lists listing) (opened : store.requireOpen = .ok ())
    (entityType : String) : store.allFor entityType = .ok (Listing.ofType entityType listing) := by
  unfold Store.allFor
  rw [opened, ← lists.entries]
  cases store <;> rfl

theorem Lists.allStaleFor_eq (lists : store.Lists listing) (opened : store.requireOpen = .ok ())
    (entityType : String) : store.allStaleFor entityType =
      .ok ((Listing.ofType entityType listing).filter fun entry => entry.content.stale) := by
  rw [Store.allStaleFor_eq, lists.allFor_eq opened]
  rfl

theorem Lists.count_eq (lists : store.Lists listing) (opened : store.requireOpen = .ok ())
    (entityType : Option String) :
    store.count entityType = .ok (Listing.part entityType listing).length := by
  cases entityType with
  | none =>
      rw [Store.count, opened, lists.entries]
      rfl
  | some counted =>
      rw [Store.count, lists.allFor_eq opened]
      rfl

end Store

end ShadowIndex
