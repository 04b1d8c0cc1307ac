import ShadowIndex.Query.Basic

/-!
Contract: the members of a list, each once, in order of first appearance.

Owns: which members `distinct` keeps, and when it keeps all.

Does not own: what is listed.
-/

set_option autoImplicit false

namespace ShadowIndex

variable {α : Type} [DecidableEq α]

theorem mem_distinct_iff (items : List α) (item : α) : item ∈ distinct items ↔ item ∈ items := by
  induction items with
  | nil => rfl
  | cons first rest inductionHypothesis =>
      by_cases same : item = first
      · simp [distinct, same]
      · simp [distinct, same, inductionHypothesis]

theorem nodup_distinct (items : List α) : (distinct items).Nodup := by
  induction items with
  | nil => exact List.nodup_nil
  | cons item rest inductionHypothesis =>
      exact List.nodup_cons.2 ⟨by simp, inductionHypothesis.filter _⟩

/-- A member behind the others is kept if it is a new one. -/
theorem distinct_concat (items : List α) (item : α) :
    distinct (items ++ [item]) =
      if item ∈ items then distinct items else distinct items ++ [item] := by
  induction items with
  | nil => rfl
  | cons first rest inductionHypothesis =>
      rw [List.cons_append, distinct, inductionHypothesis, distinct]
      by_cases known : item ∈ rest
      · rw [if_pos known, if_pos (List.mem_cons_of_mem first known)]
      · rw [if_neg known, List.filter_append]
        by_cases same : item = first
        · simp [same]
        · simp [same, known]

theorem distinct_eq_self {items : List α} (nodup : items.Nodup) : distinct items = items := by
  induction items with
  | nil => rfl
  | cons item rest inductionHypothesis =>
      obtain ⟨unseen, restNodup⟩ := List.nodup_cons.1 nodup
      rw [distinct, inductionHypothesis restNodup, List.filter_eq_self.2]
      intro other member
      have different : other ≠ item := fun same => unseen (same ▸ member)
      simpa using different

end ShadowIndex
