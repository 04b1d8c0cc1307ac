import Mathlib.Data.List.Nodup
import ShadowIndex.Proofs.Host.Keyed

/-!
Contract: candidates as lists of ids without repetitions.

Owns:
- `Host.Enumerates`, the candidates of a type, each listed once; every keyed host has such a list;
- a scope leaves some of the candidates, in their order (`Host.Enumerates.within`);
- `among`, the ids that two answers share.

Does not own: which of the candidates a search gives.
-/

set_option autoImplicit false

namespace ShadowIndex

/-- The ids of an answer that are also in another one. -/
def among (ids others : List Value) : List Value := ids.filter fun id => id.isIn others

theorem among_value (ids others : List Id) :
    among (ids.map Id.value) (others.map Id.value) =
      (ids.filter fun id => decide (id ∈ others)).map Id.value := by
  rw [among, List.filter_map]
  refine congrArg (List.map Id.value) (List.filter_congr fun id _ => ?_)
  rw [Bool.eq_iff_iff]
  simp [Value.isIn, Value.same_value_iff]

/-- Of a list without repetitions, the members that are also in a part of it are that part. -/
theorem filter_mem_of_sublist {α : Type} [DecidableEq α] {part whole : List α}
    (sublist : part.Sublist whole) (once : whole.Nodup) :
    (whole.filter fun item => decide (item ∈ part)) = part := by
  induction sublist with
  | slnil => rfl
  | @cons part rest item isPart inductionHypothesis =>
      obtain ⟨absent, onceRest⟩ := List.nodup_cons.1 once
      have notMember : item ∉ part := fun member => absent (isPart.subset member)
      rw [List.filter_cons_of_neg (by simpa using notMember), inductionHypothesis onceRest]
  | @cons_cons part rest item isPart inductionHypothesis =>
      obtain ⟨absent, onceRest⟩ := List.nodup_cons.1 once
      have same : ∀ other ∈ rest, decide (other ∈ item :: part) = decide (other ∈ part) := by
        intro other member
        have different : other ≠ item := fun isItem => absent (isItem ▸ member)
        simp [different]
      rw [List.filter_cons_of_pos (by simp), List.filter_congr same, inductionHypothesis onceRest]

/-- What an answer with some candidates has among a part of them. -/
theorem among_filter {part whole : List Id} (sublist : part.Sublist whole) (once : whole.Nodup)
    (keep : Id → Bool) :
    among ((whole.filter keep).map Id.value) (part.map Id.value) =
      (part.filter keep).map Id.value := by
  rw [among_value, List.filter_comm, filter_mem_of_sublist sublist once]

namespace Host

/-- The candidates of a type are certain ids, each listed once. -/
structure Enumerates (host : Host) (entityType : String) (ids : List Id) : Prop where
  listed : host.candidates entityType .all = .ok (ids.map Id.value)
  nodup : ids.Nodup

variable {host : Host} {entityType : String}

theorem filterChecked_all (records : List HostRecord) :
    filterChecked (admits .all) records = .ok records := by
  induction records with
  | nil => rfl
  | cons record rest inductionHypothesis =>
      rw [filterChecked, inductionHypothesis]
      rfl

/-- A scope leaves some of the candidates, in their order. -/
theorem Enumerates.within {ids : List Id} (enumerates : host.Enumerates entityType ids)
    {scope : Scope} {candidates : List Value}
    (listed : host.candidates entityType scope = .ok candidates) :
    ∃ part : List Id, candidates = part.map Id.value ∧ part.Sublist ids := by
  have all := enumerates.listed
  unfold Host.candidates at all listed
  rw [filterChecked_all] at all
  cases filtered : filterChecked (admits scope) (host.ofType entityType) with
  | error failure => simp [filtered, bind, Except.bind] at listed
  | ok kept =>
      simp only [filtered, bind, Except.bind, pure, Except.pure, Except.ok.injEq] at all listed
      have fewer : candidates.Sublist (ids.map Id.value) := by
        rw [← all, ← listed]
        exact ((sublist_of_filterChecked filtered).map HostRecord.id).append_right _
      obtain ⟨part, sublist, same⟩ := List.sublist_map_iff.1 fewer
      exact ⟨part, same, sublist⟩

/-- Members that stand under the keys of ids are a list of ids. -/
theorem exists_ids {rows : List ((String × Key) × HostRecord)}
    (keyed : ∀ row ∈ rows, ∃ id : Id, row.2.id = id.value ∧ row.1.2 = id.key) :
    ∃ ids : List Id, rows.map (fun row => row.2.id) = ids.map Id.value ∧
      rows.map (fun row => row.1.2) = ids.map Id.key := by
  induction rows with
  | nil => exact ⟨[], rfl, rfl⟩
  | cons row rest inductionHypothesis =>
      obtain ⟨id, isId, isKey⟩ := keyed row (by simp)
      obtain ⟨ids, areIds, areKeys⟩ :=
        inductionHypothesis fun other member => keyed other (by simp [member])
      exact ⟨id :: ids, by simp [isId, areIds], by simp [isKey, areKeys]⟩

/-- A keyed host lists each record of a type once. -/
theorem IsKeyed.enumerates {known : Id → Prop} (keyed : host.IsKeyed known) (entityType : String) :
    ∃ ids, host.Enumerates entityType ids := by
  let rows := host.records.rows.filter fun row => decide (row.1.1 = entityType)
  have isType : ∀ row ∈ rows, row.1.1 = entityType := fun row member => by
    simpa using (List.mem_filter.1 member).2
  obtain ⟨ids, areIds, areKeys⟩ : ∃ ids : List Id,
      rows.map (fun row => row.2.id) = ids.map Id.value ∧
        rows.map (fun row => row.1.2) = ids.map Id.key := by
    refine exists_ids fun row member => ?_
    obtain ⟨id, isId, isKey, -⟩ := keyed.keyed row.1.1 row.1.2 row.2
      ((Table.find?_eq_some_iff _ _ _).2 (List.mem_filter.1 member).1)
    exact ⟨id, isId, isKey⟩
  refine ⟨ids, ?_, ?_⟩
  · rw [Host.candidates, filterChecked_all, keyed.real, ← areIds]
    simp [ofType, rows, bind, Except.bind, pure, Except.pure, Function.comp_def]
  · -- Rows of one type differ in their keys, since no two rows have the same type and key.
    have once : (rows.map Prod.fst).Nodup :=
      (List.filter_sublist.map Prod.fst).nodup host.records.nodup
    have byKey : rows.map Prod.fst = (ids.map Id.key).map (Prod.mk entityType) := by
      rw [← areKeys, List.map_map]
      refine List.map_congr_left fun row member => ?_
      exact Prod.ext (isType row member) rfl
    rw [byKey] at once
    exact List.Nodup.of_map Id.key (List.Nodup.of_map (Prod.mk entityType) once)

/-- The candidates of a type are the ids of its records, in order of creation. -/
theorem Enumerates.map_id {known : Id → Prop} (keyed : host.IsKeyed known) {ids : List Id}
    (enumerates : host.Enumerates entityType ids) :
    (host.ofType entityType).map HostRecord.id = ids.map Id.value := by
  have listed := enumerates.listed
  rw [Host.candidates, filterChecked_all, keyed.real] at listed
  simpa only [bind, Except.bind, pure, Except.pure, List.flatMap_nil, List.append_nil,
    Except.ok.injEq] using listed

/-- The candidates of a keyed host are the ids of its live records. -/
theorem Enumerates.mem_iff {known : Id → Prop} (keyed : host.IsKeyed known) {ids : List Id}
    (enumerates : host.Enumerates entityType ids) (id : Id) :
    id ∈ ids ↔ host.IsLive ⟨entityType, id⟩ := by
  constructor
  · intro member
    obtain ⟨other, same, -, live⟩ :=
      keyed.isLive_of_candidates enumerates.listed (List.mem_map_of_mem member)
    rwa [Id.value_injective same]
  · intro live
    obtain ⟨record, found⟩ := Option.isSome_iff_exists.1 live
    obtain ⟨other, isId, isKey, -⟩ := keyed.keyed _ _ record found
    obtain rfl : id = other := Id.key_injective isKey
    have isRecord := (mem_ofType_iff record).2 ⟨id.key, found⟩
    have member : id.value ∈ ids.map Id.value := by
      rw [← enumerates.map_id keyed, ← isId]
      exact List.mem_map_of_mem isRecord
    exact (List.mem_map_of_injective fun _ _ => Id.value_injective).1 member

end Host

end ShadowIndex
