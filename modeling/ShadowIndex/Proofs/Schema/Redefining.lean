import ShadowIndex.Proofs.Schema.Naming
import ShadowIndex.Schema.SearchTexts

/-!
Contract: declarations that are refused without a trace, and what an accepted one changes.

Owns:
- `Registry.ShowsSame`, registries with the same types in order and the same definitions, so that all
  look-ups and all texts are the same;
- a refused declaration leaves a registry that shows the same (`Registry.showsSame_of_refused`);
- `Registry.Redefines`: one name of one type has another field, at its place or at the end.

Does not own: which declarations are accepted, or the entries of the type.
-/

set_option autoImplicit false

namespace ShadowIndex

theorem Table.rows_insert_of_absent {κ α : Type} [DecidableEq κ] {table : Table κ α} {key : κ}
    (absent : table.contains key = false) (value : α) :
    (table.insert key value).rows = table.rows ++ [(key, value)] := by
  have notMember : key ∉ table.keys := by simpa [contains] using absent
  rw [insert, dif_pos notMember]
  rfl

namespace Registry

variable {registry after : Registry} {entityType name : String} {field : Field}

/-! ## Registries that show the same -/

/-- The same types, in the same order, with the same definitions. -/
structure ShowsSame (registry after : Registry) : Prop where
  types : after.types = registry.types
  definitions : ∀ other, after.get other = registry.get other

theorem ShowsSame.refl (registry : Registry) : registry.ShowsSame registry := ⟨rfl, fun _ => rfl⟩

/-- A place in the order that was taken without a field cannot be seen. -/
theorem showsSame_withType (registry : Registry) (entityType : String) :
    registry.ShowsSame (registry.withType entityType) where
  types := by
    unfold withType
    split
    · rfl
    · rename_i absent
      have blank : registry.blank.isEmpty = true := rfl
      simp [types, Table.rows_insert_of_absent (by simpa using absent), blank]
  definitions := get_withType registry entityType

section ShowsSame

variable {ρ : Type} (same : registry.ShowsSame after)
include same

theorem ShowsSame.isRegistered (other : String) :
    after.isRegistered other = registry.isRegistered other := by
  rw [Registry.isRegistered, Registry.isRegistered, same.definitions]

theorem ShowsSame.names (other : String) : (after.get other).names = (registry.get other).names := by
  rw [same.definitions]

theorem ShowsSame.resolve (other qualifier : String) :
    after.resolve other qualifier = registry.resolve other qualifier := by
  rw [Registry.resolve, Registry.resolve, same.definitions]

theorem ShowsSame.extract (view : RecordView ρ) (record : ρ) (field : Field) :
    after.extract view record field = registry.extract view record field := by
  simp only [Registry.extract, Registry.extractValue, same.definitions]

theorem ShowsSame.extractNamed (view : RecordView ρ) (record : ρ) :
    after.extractNamed view record = registry.extractNamed view record := by
  funext row
  simp only [Registry.extractNamed, same.extract]

theorem ShowsSame.build (view : RecordView ρ) (other : String) (record : ρ) :
    after.build view other record = registry.build view other record := by
  simp only [Registry.build, same.extractNamed, same.definitions]

theorem ShowsSame.buildFullText (view : RecordView ρ) (other : String) (record : ρ) :
    after.buildFullText view other record = registry.buildFullText view other record := by
  simp only [Registry.buildFullText, same.extractNamed, same.definitions]

theorem ShowsSame.fieldText (view : RecordView ρ) (record : ρ) (field : Field) :
    after.fieldText view record field = registry.fieldText view record field := by
  simp only [Registry.fieldText, same.extract]

theorem ShowsSame.buildFieldTexts (view : RecordView ρ) (other : String) (record : ρ) :
    after.buildFieldTexts view other record = registry.buildFieldTexts view other record := by
  simp only [Registry.buildFieldTexts, same.fieldText, same.definitions]

theorem ShowsSame.buildQualifierText (view : RecordView ρ) (other : String) (record : ρ)
    (qualifier : String) : after.buildQualifierText view other record qualifier =
      registry.buildQualifierText view other record qualifier := by
  simp only [Registry.buildQualifierText, same.resolve, same.fieldText]

end ShowsSame

/-! ## Refused declarations -/

theorem showsSame_of_refused {given : Value}
    {check : Registry → String → Except Failure (String × Field)} {failure : Failure}
    (refused : registry.declareChecked given check = (.error failure, after)) :
    registry.ShowsSame after := by
  unfold declareChecked at refused
  split at refused
  · cases refused
    exact .refl registry
  · dsimp only at refused
    split at refused
    · cases refused
      exact showsSame_withType registry _
    · cases refused

/-! ## Accepted declarations -/

theorem declareChecked_of_ok {check : Registry → String → Except Failure (String × Field)}
    (nonempty : entityType ≠ "")
    (accepted : check (registry.withType entityType) entityType = .ok (name, field)) :
    registry.declareChecked (.str entityType) check =
      (.ok (name, field), (registry.withType entityType).declare entityType name field) := by
  have isText : entityType.isEmpty = false := by simpa using nonempty
  simp [declareChecked, checkEntityType, isText, accepted]

/-- An extractor is accepted under every proper name. -/
theorem checkField_of_isProperName (proper : IsProperName name) (rule : Extractor)
    (inFullText : Bool) :
    checkField (.str name) (some rule) inFullText = .ok (name, ⟨.extractor rule, inFullText⟩) := by
  have isName := (checkFieldName_eq_ok_iff (.str name) name).2 ⟨rfl, proper⟩
  simp [checkField, isName, bind, Except.bind, pure, Except.pure]

/-- An alias of a proper name is accepted under every proper name that is no field of the full text. -/
theorem checkAlias_of_isProperName {target : String} (proper : IsProperName name)
    (targetProper : IsProperName target)
    (free : ∀ present, (registry.get entityType).fields.find? name = some present →
      present.aliasOf? = none → present.inFullText = false) :
    registry.checkAlias entityType (.str name) (.str target) =
      .ok (name, ⟨.alias entityType target, false⟩) := by
  have isName := (checkFieldName_eq_ok_iff (.str name) name).2 ⟨rfl, proper⟩
  have isTarget := (checkFieldName_eq_ok_iff (.str target) target).2 ⟨rfl, targetProper⟩
  have hasKey : (Value.str name).key = .ok (.str name) := rfl
  cases known : (registry.get entityType).fields.find? name with
  | none => simp [checkAlias, isName, isTarget, hasKey, known, bind, Except.bind, pure, Except.pure]
  | some present =>
      have visible : (present.aliasOf?.isNone && present.inFullText) = false := by
        cases isAlias : present.aliasOf? with
        | none => simp [free present known isAlias]
        | some read => rfl
      simp [checkAlias, isName, isTarget, hasKey, known, visible, bind, Except.bind, pure,
        Except.pure]

/-- One type has a field under a name, where the name stood or at the end, and nothing else of its
fields or of other types is changed. -/
structure Redefines (registry : Registry) (entityType name : String) (field : Field)
    (after : Registry) : Prop where
  names : (after.get entityType).names =
    if name ∈ (registry.get entityType).names then (registry.get entityType).names
    else (registry.get entityType).names ++ [name]
  declared : (after.get entityType).fields.find? name = some field
  kept : ∀ other, other ≠ name →
    (after.get entityType).fields.find? other = (registry.get entityType).fields.find? other
  caseSensitive : (after.get entityType).caseSensitive = (registry.get entityType).caseSensitive
  others : ∀ other, other ≠ entityType → after.get other = registry.get other

theorem redefines_declare (registry : Registry) (entityType name : String) (field : Field) :
    registry.Redefines entityType name field
      ((registry.withType entityType).declare entityType name field) := by
  have own : ((registry.withType entityType).declare entityType name field).get entityType =
      (registry.get entityType).declare name field := by
    rw [get_declare, if_pos rfl, get_withType]
  constructor
  · rw [own]
    exact Table.keys_insert _ _ _
  · rw [own, Definition.declare, Table.find?_insert, if_pos rfl]
  · intro other different
    rw [own, Definition.declare, Table.find?_insert, if_neg different]
  · rw [own]
    rfl
  · intro other different
    rw [get_declare, if_neg different, get_withType]

end Registry

end ShadowIndex
