import ShadowIndex.Schema.SearchTexts

/-!
Contract: the fragments of which the texts of a build are made.

Owns:
- `Registry.extractAll`, the fragments of all fields of a record, read in one pass;
- a build makes its texts of these (`build_inv`), the text of each field of its own fragments
  alone (`find?_textsOf_iff`);
- each field of the type is among them once, in order (`fields_of_extractAll`).

Does not own: what matches the texts.
-/

set_option autoImplicit false

namespace ShadowIndex

namespace Definition

variable {definition : Definition} {qualifier name : String} {field : Field}

/-- A field is selected by its own name, whether case matters or not. -/
theorem resolve_of_find? (known : definition.fields.find? name = some field) :
    definition.resolve name = some (name, field) := by
  simp [resolve, known]

theorem find?_of_resolve (selected : definition.resolve qualifier = some (name, field)) :
    definition.fields.find? name = some field := by
  unfold resolve at selected
  split at selected
  · rename_i found
    cases selected
    exact found
  · split at selected
    · cases selected
    · exact (Table.find?_eq_some_iff _ _ _).2 (List.mem_of_find?_eq_some selected)

end Definition

namespace Registry

variable {ρ : Type} {registry : Registry} {view : RecordView ρ} {entityType : String}
  {record : ρ} {streams : Streams} {texts : SearchTexts}
  {extracted : List (String × Field × List String)}

/-- The fields of a type, each with the fragments that it gives for a record, in one pass. -/
def extractAll (registry : Registry) (view : RecordView ρ) (entityType : String) (record : ρ) :
    Action Streams (List (String × Field × List String)) :=
  Action.each (registry.extractNamed view record) (registry.get entityType).fields.rows

/-- The fragments of the fields that contribute to the full text. -/
def fullFragments (extracted : List (String × Field × List String)) : List String :=
  (extracted.filter fun row => row.2.1.inFullText).flatMap fun row => row.2.2

theorem mem_fullFragments_iff (fragment : String) :
    fragment ∈ fullFragments extracted ↔
      ∃ name field fragments, (name, field, fragments) ∈ extracted ∧ field.inFullText = true ∧
        fragment ∈ fragments := by
  simp only [fullFragments, List.mem_flatMap, List.mem_filter, Prod.exists]
  grind

/-- A build makes its texts of the fragments of one pass. -/
theorem build_inv (built : (registry.build view entityType record streams).1 = .ok texts) :
    ∃ extracted, (registry.extractAll view entityType record streams).1 = .ok extracted ∧
      texts = textsOf extracted := by
  change ((registry.extractAll view entityType record >>= fun extracted =>
    pure (textsOf extracted)) streams).1 = .ok texts at built
  rw [Action.bind_apply] at built
  split at built
  · rename_i extracted after pass
    cases built
    exact ⟨extracted, by rw [pass], rfl⟩
  · cases built

theorem extractNamed_inv {row : String × Field} {after : Streams}
    {outcome : String × Field × List String}
    (extracts : registry.extractNamed view record row streams = (.ok outcome, after)) :
    outcome.1 = row.1 ∧ outcome.2.1 = row.2 := by
  unfold extractNamed at extracts
  rw [Action.bind_apply] at extracts
  split at extracts
  · cases extracts
    exact ⟨rfl, rfl⟩
  · cases extracts

/-- Each field of a type gives fragments once, in order of declaration. -/
theorem fields_of_extractAll
    (extracts : (registry.extractAll view entityType record streams).1 = .ok extracted) :
    extracted.map (fun row => (row.1, row.2.1)) = (registry.get entityType).fields.rows := by
  unfold extractAll at extracts
  generalize (registry.get entityType).fields.rows = rows at extracts
  induction rows generalizing streams extracted with
  | nil =>
      cases extracts
      rfl
  | cons row rest inductionHypothesis =>
      rw [Action.each, Action.bind_apply] at extracts
      split at extracts
      · rename_i first after firstExtracts
        rw [Action.bind_apply] at extracts
        split at extracts
        · rename_i others last restExtracts
          cases extracts
          obtain ⟨sameName, sameField⟩ := extractNamed_inv firstExtracts
          rw [List.map_cons, inductionHypothesis (by rw [restExtracts]), sameName, sameField]
        · cases extracts
      · cases extracts

section Extracted

variable (extracts : (registry.extractAll view entityType record streams).1 = .ok extracted)
include extracts

theorem nodup_of_extractAll : (extracted.map Prod.fst).Nodup := by
  have nodup := (registry.get entityType).fields.nodup
  rw [← fields_of_extractAll extracts] at nodup
  simpa [Function.comp_def] using nodup

theorem exists_extracted {name : String} {field : Field}
    (known : (registry.get entityType).fields.find? name = some field) :
    ∃ fragments, (name, field, fragments) ∈ extracted := by
  have member := (Table.find?_eq_some_iff _ _ _).1 known
  rw [← fields_of_extractAll extracts] at member
  obtain ⟨⟨_, _, fragments⟩, isExtracted, same⟩ := List.mem_map.1 member
  cases same
  exact ⟨fragments, isExtracted⟩

theorem rows_textsOf : (textsOf extracted).fields.rows =
    extracted.map fun row => (row.1, Text.normalize row.2.2) :=
  Table.rows_ofList (by simpa [Function.comp_def] using nodup_of_extractAll extracts)

/-- The text of a field is the normal form of its own fragments. -/
theorem find?_textsOf_iff (name text : String) :
    (textsOf extracted).fields.find? name = some text ↔
      ∃ field fragments, (name, field, fragments) ∈ extracted ∧
        text = Text.normalize fragments := by
  rw [Table.find?_eq_some_iff, rows_textsOf extracts, List.mem_map]
  constructor
  · rintro ⟨⟨_, field, fragments⟩, member, same⟩
    cases same
    exact ⟨field, fragments, member, rfl⟩
  · rintro ⟨field, fragments, member, rfl⟩
    exact ⟨_, member, rfl⟩

end Extracted

end Registry

end ShadowIndex
