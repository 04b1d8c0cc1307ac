/-!
Contract: tables, finite maps that remember the order of insertion.

Owns:
- `Table`, rows whose keys are pairwise different;
- look-up, in-place replacement, removal, selection of rows;
- the laws of look-up after each change.

Does not own: what keys and values mean, or any order but that of insertion.
-/

set_option autoImplicit false

namespace ShadowIndex

universe u v w

/-- Rows in order of insertion, one for each key. -/
structure Table (κ : Type u) (α : Type v) where
  rows : List (κ × α)
  nodup : (rows.map Prod.fst).Nodup

namespace Table

variable {κ : Type u} {α : Type v} {β : Type w}

/-- Two tables are equal when their rows are. -/
theorem ext_rows {left right : Table κ α} (sameRows : left.rows = right.rows) :
    left = right := by
  cases left
  cases right
  cases sameRows
  rfl

def empty : Table κ α := ⟨[], List.nodup_nil⟩

instance : EmptyCollection (Table κ α) := ⟨empty⟩

instance : Inhabited (Table κ α) := ⟨empty⟩

def keys (table : Table κ α) : List κ := table.rows.map Prod.fst

def values (table : Table κ α) : List α := table.rows.map Prod.snd

def size (table : Table κ α) : Nat := table.rows.length

def isEmpty (table : Table κ α) : Bool := table.rows.isEmpty

def filter (keep : κ × α → Bool) (table : Table κ α) : Table κ α where
  rows := table.rows.filter keep
  nodup := (List.filter_sublist.map Prod.fst).nodup table.nodup

def mapValues (change : κ → α → β) (table : Table κ α) : Table κ β where
  rows := table.rows.map fun row => (row.1, change row.1 row.2)
  nodup := by
    have sameKeys : (table.rows.map fun row => (row.1, change row.1 row.2)).map Prod.fst
        = table.rows.map Prod.fst := by simp [Function.comp_def]
    rw [sameKeys]
    exact table.nodup

/-- A table with one row more, under a key that no row has. -/
def append (table : Table κ α) (key : κ) (value : α) (absent : key ∉ table.keys) :
    Table κ α where
  rows := table.rows ++ [(key, value)]
  nodup := by
    rw [List.map_append, List.nodup_append]
    refine ⟨table.nodup, by simp, ?_⟩
    intro present member other isKey
    simp only [List.map_cons, List.map_nil, List.mem_singleton] at isKey
    subst isKey
    intro same
    subst same
    exact absent member

variable [DecidableEq κ]

def find? (table : Table κ α) (key : κ) : Option α :=
  (table.rows.find? fun row => decide (row.1 = key)).map Prod.snd

def contains (table : Table κ α) (key : κ) : Bool := decide (key ∈ table.keys)

def erase (table : Table κ α) (key : κ) : Table κ α :=
  table.filter fun row => decide (row.1 ≠ key)

/-- Changes the value of a key where it stands; without such a key nothing changes. -/
def modify (table : Table κ α) (key : κ) (change : α → α) : Table κ α :=
  table.mapValues fun present value => if present = key then change value else value

/-- Replaces the value of a present key where it stands, and appends a row for a new key. -/
def insert (table : Table κ α) (key : κ) (value : α) : Table κ α :=
  if absent : key ∉ table.keys then table.append key value absent
  else table.modify key fun _ => value

def insertAll (table : Table κ α) (rows : List (κ × α)) : Table κ α :=
  rows.foldl (fun built row => built.insert row.1 row.2) table

/-- A key stands where it came first and holds what came last. -/
def ofList (rows : List (κ × α)) : Table κ α := empty.insertAll rows

/-! ## Look-up -/

@[simp] theorem find?_empty (key : κ) : (empty : Table κ α).find? key = none := rfl

private theorem find?_rows_eq_some_iff (rows : List (κ × α))
    (nodup : (rows.map Prod.fst).Nodup) (key : κ) (value : α) :
    (rows.find? fun row => decide (row.1 = key)).map Prod.snd = some value ↔
      (key, value) ∈ rows := by
  induction rows with
  | nil => simp
  | cons head tail inductionHypothesis =>
      obtain ⟨headKey, headValue⟩ := head
      simp only [List.map_cons, List.nodup_cons] at nodup
      by_cases same : headKey = key
      · subst same
        have notInTail : (headKey, value) ∉ tail := fun member =>
          nodup.1 (List.mem_map_of_mem member)
        simp [notInTail, eq_comm]
      · have step := inductionHypothesis nodup.2
        simp only [List.find?_cons, same, decide_false, List.mem_cons, Prod.mk.injEq]
        rw [step]
        constructor
        · exact Or.inr
        · rintro (⟨sameKey, -⟩ | member)
          · exact absurd sameKey.symm same
          · exact member

/-- Look-up finds exactly the rows of the table. -/
theorem find?_eq_some_iff (table : Table κ α) (key : κ) (value : α) :
    table.find? key = some value ↔ (key, value) ∈ table.rows :=
  find?_rows_eq_some_iff table.rows table.nodup key value

theorem find?_eq_none_iff (table : Table κ α) (key : κ) :
    table.find? key = none ↔ key ∉ table.keys := by
  simp only [find?, keys, Option.map_eq_none_iff, List.find?_eq_none, List.mem_map]
  constructor
  · rintro noRow ⟨row, member, sameKey⟩
    exact noRow row member (by simp [sameKey])
  · intro noKey row member sameKey
    exact noKey ⟨row, member, of_decide_eq_true sameKey⟩

theorem contains_eq_isSome (table : Table κ α) (key : κ) :
    table.contains key = (table.find? key).isSome := by
  cases found : table.find? key with
  | none =>
      have absent := (table.find?_eq_none_iff key).1 found
      simp [contains, absent]
  | some value =>
      have member := (table.find?_eq_some_iff key value).1 found
      have present : key ∈ table.keys := List.mem_map_of_mem (f := Prod.fst) member
      simp [contains, present]

theorem find?_mapValues (table : Table κ α) (change : κ → α → β) (key : κ) :
    (table.mapValues change).find? key = (table.find? key).map (change key) := by
  simp only [find?, mapValues, List.find?_map, Option.map_map]
  cases found : table.rows.find? ((fun row => decide (row.1 = key)) ∘
      fun row : κ × α => (row.1, change row.1 row.2)) with
  | none =>
      have noRow : table.rows.find? (fun row => decide (row.1 = key)) = none := found
      simp [noRow]
  | some row =>
      have someRow : table.rows.find? (fun row => decide (row.1 = key)) = some row := found
      have sameKey : row.1 = key := by simpa using List.find?_some someRow
      simp [someRow, sameKey]

theorem find?_modify (table : Table κ α) (key : κ) (change : α → α) (other : κ) :
    (table.modify key change).find? other =
      if other = key then (table.find? other).map change else table.find? other := by
  rw [modify, find?_mapValues]
  by_cases same : other = key
  · simp [same]
  · simp [same]

theorem find?_append (table : Table κ α) (key : κ) (value : α)
    (absent : key ∉ table.keys) (other : κ) :
    (table.append key value absent).find? other =
      if other = key then some value else table.find? other := by
  simp only [append, find?, List.find?_append]
  by_cases same : other = key
  · subst same
    have noRow : table.rows.find? (fun row => decide (row.1 = other)) = none := by
      have unseen := (table.find?_eq_none_iff other).2 absent
      simpa [find?] using unseen
    simp [noRow]
  · have different : ¬ key = other := fun equal => same equal.symm
    simp [same, different]

/-- After an insertion the key holds the value, and every other key what it held. -/
theorem find?_insert (table : Table κ α) (key : κ) (value : α) (other : κ) :
    (table.insert key value).find? other =
      if other = key then some value else table.find? other := by
  unfold insert
  split
  · exact find?_append table key value _ other
  · rename_i present
    rw [find?_modify]
    by_cases same : other = key
    · subst same
      cases found : table.find? other with
      | none => exact absurd ((table.find?_eq_none_iff other).1 found) present
      | some held => simp
    · simp [same]

/-- A selection of rows holds what the table holds, where the row was selected. -/
theorem find?_filter (table : Table κ α) (keep : κ × α → Bool) (key : κ) :
    (table.filter keep).find? key = (table.find? key).filter fun value => keep (key, value) := by
  cases found : table.find? key with
  | none =>
      rw [find?_eq_none_iff] at found
      rw [Option.filter_none, find?_eq_none_iff]
      intro member
      obtain ⟨row, selected, sameKey⟩ := List.mem_map.1 member
      exact found (List.mem_map.2 ⟨row, (List.mem_filter.1 selected).1, sameKey⟩)
  | some value =>
      have isRow := (find?_eq_some_iff _ _ _).1 found
      by_cases kept : keep (key, value) = true
      · rw [Option.filter_some, if_pos kept, find?_eq_some_iff]
        exact List.mem_filter.2 ⟨isRow, kept⟩
      · rw [Option.filter_some, if_neg kept, find?_eq_none_iff]
        intro member
        obtain ⟨⟨other, held⟩, selected, rfl⟩ := List.mem_map.1 member
        obtain ⟨inRows, passes⟩ := List.mem_filter.1 selected
        rw [(find?_eq_some_iff _ _ _).2 inRows] at found
        cases found
        exact kept passes

/-- After a removal the key is absent, and every other key holds what it held. -/
theorem find?_erase (table : Table κ α) (key other : κ) :
    (table.erase key).find? other = if other = key then none else table.find? other := by
  rw [erase, find?_filter]
  by_cases same : other = key
  · cases found : table.find? other <;> simp [same]
  · cases found : table.find? other <;> simp [same]

theorem erase_eq_self {table : Table κ α} {key : κ} (absent : key ∉ table.keys) :
    table.erase key = table := by
  refine ext_rows (List.filter_eq_self.2 fun row isRow => ?_)
  have different : row.1 ≠ key := fun same => absent (same ▸ List.mem_map_of_mem isRow)
  simpa using different

/-! ## Keys -/

omit [DecidableEq κ] in
@[simp] theorem keys_mapValues (table : Table κ α) (change : κ → α → β) :
    (table.mapValues change).keys = table.keys := by
  simp [keys, mapValues, Function.comp_def]

@[simp] theorem keys_modify (table : Table κ α) (key : κ) (change : α → α) :
    (table.modify key change).keys = table.keys := by
  simp [modify]

/-- An insertion keeps the order of the keys and puts a new key at the end. -/
theorem keys_insert (table : Table κ α) (key : κ) (value : α) :
    (table.insert key value).keys =
      if key ∈ table.keys then table.keys else table.keys ++ [key] := by
  by_cases present : key ∈ table.keys
  · rw [if_pos present, insert, dif_neg (fun absent => absent present), keys_modify]
  · rw [if_neg present, insert, dif_pos present]
    simp [append, keys]

/-! ## Many rows -/

theorem find?_insertAll_cases {rows : List (κ × α)} {key : κ} {value : α} {table : Table κ α}
    (found : (table.insertAll rows).find? key = some value) :
    (key, value) ∈ rows ∨ table.find? key = some value := by
  induction rows generalizing table with
  | nil => exact Or.inr found
  | cons row rest inductionHypothesis =>
      rcases inductionHypothesis found with member | earlier
      · exact Or.inl (List.mem_cons_of_mem row member)
      · rw [find?_insert] at earlier
        by_cases same : key = row.1
        · rw [if_pos same] at earlier
          cases earlier
          left
          rw [same]
          exact List.mem_cons_self
        · rw [if_neg same] at earlier
          exact Or.inr earlier

/-- After the rows of another table are inserted, a key holds what it holds there, or else what it
held. -/
theorem find?_insertAll (table other : Table κ α) (key : κ) :
    (table.insertAll other.rows).find? key = (other.find? key).or (table.find? key) := by
  obtain ⟨rows, nodup⟩ := other
  induction rows generalizing table with
  | nil => rfl
  | cons row rest inductionHypothesis =>
      obtain ⟨fresh, restNodup⟩ := List.nodup_cons.1 nodup
      have step : (table.insertAll (row :: rest)).find? key = _ :=
        inductionHypothesis (table.insert row.1 row.2) restNodup
      rw [step, find?_insert]
      by_cases same : key = row.1
      · have absent : (⟨rest, restNodup⟩ : Table κ α).find? key = none := by
          rw [find?_eq_none_iff, same]
          exact fresh
        have first : (⟨row :: rest, nodup⟩ : Table κ α).find? key = some row.2 := by
          rw [find?_eq_some_iff, same]
          exact List.mem_cons_self
        rw [absent, first, if_pos same]
        rfl
      · have notFirst : decide (row.1 = key) = false := decide_eq_false fun equal => same equal.symm
        have others : (⟨row :: rest, nodup⟩ : Table κ α).find? key =
            (⟨rest, restNodup⟩ : Table κ α).find? key := by
          simp only [find?, List.find?_cons, notFirst]
        rw [others, if_neg same]

/-- Keys that stand in a table stay in their positions. -/
theorem keys_prefix_insertAll (table : Table κ α) (rows : List (κ × α)) :
    table.keys <+: (table.insertAll rows).keys := by
  induction rows generalizing table with
  | nil => exact List.prefix_refl _
  | cons row rest inductionHypothesis =>
      refine List.IsPrefix.trans ?_ (inductionHypothesis (table.insert row.1 row.2))
      rw [keys_insert]
      split
      · exact List.prefix_refl _
      · exact List.prefix_append _ _

omit [DecidableEq κ] in
theorem getElem?_keys (table : Table κ α) (position : Nat) :
    table.keys[position]? = table.rows[position]?.map Prod.fst := by
  simp [keys]

/-- A key stays in its position, with what it holds then. -/
theorem getElem?_insertAll (table : Table κ α) (rows : List (κ × α)) {position : Nat} {key : κ}
    {value : α}
    (stands : table.rows[position]? = some (key, value)) :
    ∃ held, (table.insertAll rows).rows[position]? = some (key, held) ∧
      (table.insertAll rows).find? key = some held := by
  have isKey : table.keys[position]? = some key := by
    rw [getElem?_keys, stands]
    rfl
  obtain ⟨more, extended⟩ := keys_prefix_insertAll table rows
  have stays : (table.insertAll rows).keys[position]? = some key := by
    rw [← extended]
    obtain ⟨inside, -⟩ := List.getElem?_eq_some_iff.1 isKey
    rw [List.getElem?_append_left inside, isKey]
  rw [getElem?_keys, Option.map_eq_some_iff] at stays
  obtain ⟨⟨_, held⟩, isRow, rfl⟩ := stays
  exact ⟨held, isRow, (find?_eq_some_iff _ _ _).2 (List.mem_of_getElem? isRow)⟩

/-- Rows under new keys stand behind the others, in their order. -/
theorem rows_insertAll {rows : List (κ × α)} (table : Table κ α)
    (nodup : (table.keys ++ rows.map Prod.fst).Nodup) :
    (table.insertAll rows).rows = table.rows ++ rows := by
  induction rows generalizing table with
  | nil => simp [insertAll]
  | cons row rest inductionHypothesis =>
      have absent : row.1 ∉ table.keys := by
        intro present
        exact (List.nodup_append.1 nodup).2.2 row.1 present row.1 (by simp) rfl
      have inserted : table.insert row.1 row.2 = table.append row.1 row.2 absent := by
        rw [insert, dif_pos absent]
      have restNodup : ((table.append row.1 row.2 absent).keys ++ rest.map Prod.fst).Nodup := by
        simpa [append, keys] using nodup
      show ((table.insert row.1 row.2).insertAll rest).rows = _
      rw [inserted, inductionHypothesis _ restNodup]
      simp [append]

theorem rows_ofList {rows : List (κ × α)} (nodup : (rows.map Prod.fst).Nodup) :
    (ofList rows).rows = rows :=
  rows_insertAll empty (by simpa [keys, empty] using nodup)

end Table

end ShadowIndex
