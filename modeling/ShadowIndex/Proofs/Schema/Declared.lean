import ShadowIndex.Schema.Registry

/-!
Contract: what a declaration does to the fields of each type.

Owns:
- look-up after `withType`, `declare` and `merge`;
- what a check of a field or an alias gives back (`Registry.checkField_inv`,
  `Registry.checkAlias_inv`);
- a declaration that is refused changes the fields of no type, and one that is accepted adds one
  field to one type (`Registry.declareChecked_inv`);
- `Registry.IsReachable`, the registries that declarations and merges make, and `Registry.IsDeclared`,
  those that declarations make without merging; what the checks ensure of a field holds for all
  fields of these (`Registry.every_of_reachable`, `Registry.every_of_declared`).

Does not own: the entries of the type.
-/

set_option autoImplicit false

namespace ShadowIndex

namespace Field

variable {field : Field} {target : String}

theorem source_of_aliasOf? (isAlias : field.aliasOf? = some target) :
    ∃ home, field.source = .alias home target := by
  unfold aliasOf? at isAlias
  split at isAlias
  · cases isAlias
  · rename_i home _ source
    cases isAlias
    exact ⟨home, source⟩

theorem source_of_not_aliasOf? (isField : field.aliasOf? = none) :
    ∃ rule, field.source = .extractor rule := by
  unfold aliasOf? at isField
  split at isField
  · rename_i rule source
    exact ⟨rule, source⟩
  · cases isField

end Field

namespace Registry

variable {registry after : Registry} {entityType other : String}

theorem get_withType (registry : Registry) (entityType other : String) :
    (registry.withType entityType).get other = registry.get other := by
  unfold withType
  split
  · rfl
  · rename_i absent
    have notThere : registry.definitions.find? entityType = none := by
      simpa [Table.contains_eq_isSome] using absent
    simp only [get, Table.find?_insert]
    by_cases same : other = entityType
    · subst same
      simp [notThere]
    · rw [if_neg same]
      rfl

theorem get_declare (registry : Registry) (entityType name : String) (field : Field)
    (other : String) : (registry.declare entityType name field).get other =
      if other = entityType then (registry.get other).declare name field
      else registry.get other := by
  simp only [declare, get, Table.find?_insert]
  by_cases same : other = entityType
  · subst same
    simp
  · rw [if_neg same, if_neg same]
    rfl

/-- A type that has a definition knows after a merge what the other type knows, and keeps what that
one does not know. -/
theorem find?_merge (registry : Registry) (entityType source other name : String) :
    ((registry.merge entityType source).get other).fields.find? name =
      if registry.definitions.contains entityType = true ∧ other = entityType then
        ((registry.get source).fields.find? name).or ((registry.get entityType).fields.find? name)
      else (registry.get other).fields.find? name := by
  unfold merge
  by_cases known : registry.definitions.contains entityType = true
  · rw [if_pos known]
    simp only [get, Table.find?_insert, known, true_and]
    by_cases same : other = entityType
    · rw [if_pos same, if_pos same]
      exact Table.find?_insertAll _ _ _
    · rw [if_neg same, if_neg same]
      rfl
  · rw [if_neg known, if_neg fun both => known both.1]

/-- What a type with one field more knows. -/
theorem mem_rows_declare {definition : Definition} {name : String} {field : Field}
    {row : String × Field} (member : row ∈ (definition.declare name field).fields.rows) :
    row = (name, field) ∨ row ∈ definition.fields.rows := by
  obtain ⟨rowName, rowField⟩ := row
  have found := (Table.find?_eq_some_iff _ _ _).2 member
  simp only [Definition.declare, Table.find?_insert] at found
  by_cases same : rowName = name
  · rw [if_pos same] at found
    cases found
    exact Or.inl (by rw [same])
  · rw [if_neg same] at found
    exact Or.inr ((Table.find?_eq_some_iff _ _ _).1 found)

/-- A checked declaration is refused and changes no fields, or adds a field to the type it names. -/
theorem declareChecked_inv {given : Value}
    {check : Registry → String → Except Failure (String × Field)}
    {outcome : Except Failure (String × Field)}
    (declared : registry.declareChecked given check = (outcome, after)) :
    ((∃ failure, outcome = .error failure) ∧ ∀ other, after.get other = registry.get other) ∨
      ∃ entityType name field, given = .str entityType ∧ entityType ≠ "" ∧
        outcome = .ok (name, field) ∧
        check (registry.withType entityType) entityType = .ok (name, field) ∧
        ∀ other, after.get other =
          if other = entityType then (registry.get other).declare name field
          else registry.get other := by
  unfold declareChecked at declared
  split at declared
  · cases declared
    exact Or.inl ⟨⟨_, rfl⟩, fun other => rfl⟩
  · rename_i entityType isType
    have isText : given = .str entityType ∧ entityType ≠ "" := by
      unfold checkEntityType at isType
      split at isType
      · split at isType
        · cases isType
        · rename_i text notEmpty
          cases isType
          exact ⟨rfl, by simpa using notEmpty⟩
      · cases isType
    dsimp only at declared
    split at declared
    · cases declared
      exact Or.inl ⟨⟨_, rfl⟩, get_withType registry entityType⟩
    · rename_i name field accepted
      cases declared
      refine Or.inr ⟨entityType, name, field, isText.1, isText.2, rfl, accepted, fun other => ?_⟩
      rw [get_declare, get_withType]

/-! ## Checks -/

/-- What returns after a first part returns has a value of the first part to go on with. -/
theorem exists_of_bind {α β : Type} {first : Except Failure α} {next : α → Except Failure β}
    {result : β} (returned : (first >>= next) = .ok result) :
    ∃ value, first = .ok value ∧ next value = .ok result := by
  cases first with
  | error failure => cases returned
  | ok value => exact ⟨value, rfl, returned⟩

variable {given : Value} {name : String} {field : Field}

theorem eq_str_of_checkFieldName (checked : checkFieldName given = .ok name) :
    given = .str name := by
  unfold checkFieldName at checked
  split at checked
  · split at checked
    · cases checked
    · split at checked
      · cases checked
      · cases checked
        rfl
  · cases checked

/-- A checked field has a checked name and the extractor that was given for it. -/
theorem checkField_inv {rule? : Option Extractor} {inFullText : Bool}
    (checked : checkField given rule? inFullText = .ok (name, field)) :
    checkFieldName given = .ok name ∧
      ∃ rule, rule? = some rule ∧ field = ⟨.extractor rule, inFullText⟩ := by
  obtain ⟨text, isName, rest⟩ := exists_of_bind checked
  cases rule? with
  | none => cases rest
  | some rule =>
      cases rest
      exact ⟨isName, rule, rfl, rfl⟩

/-- A checked alias has a checked name, reads a checked name of its own type, and does not stand in
for a field of the full text. -/
theorem checkAlias_inv {target : Value}
    (checked : registry.checkAlias entityType given target = .ok (name, field)) :
    checkFieldName given = .ok name ∧
      (∃ behind, checkFieldName target = .ok behind ∧
        field = ⟨.alias entityType behind, false⟩) ∧
      ∀ present, (registry.get entityType).fields.find? name = some present →
        present.aliasOf? = none → present.inFullText = false := by
  obtain ⟨behind, isTarget, afterTarget⟩ := exists_of_bind checked
  obtain ⟨_, -, afterKey⟩ := exists_of_bind afterTarget
  -- Whatever stands under the name, only one alias is made.
  have finish {made : Field}
      (returned : (checkFieldName given >>= fun text => pure (text, made)) = .ok (name, field)) :
      checkFieldName given = .ok name ∧ field = made := by
    obtain ⟨text, isName, rest⟩ := exists_of_bind returned
    cases rest
    exact ⟨isName, rfl⟩
  dsimp only at afterKey
  split at afterKey
  · rename_i text
    split at afterKey
    · rename_i present known
      split at afterKey
      · cases afterKey
      · rename_i free
        obtain ⟨isName, made⟩ := finish afterKey
        refine ⟨isName, ⟨behind, isTarget, made⟩, fun other found isField => ?_⟩
        cases eq_str_of_checkFieldName isName
        rw [known] at found
        cases found
        simpa [isField] using free
    · rename_i unknown
      obtain ⟨isName, made⟩ := finish afterKey
      refine ⟨isName, ⟨behind, isTarget, made⟩, fun other found _ => ?_⟩
      cases eq_str_of_checkFieldName isName
      rw [unknown] at found
      cases found
  · rename_i noText
    obtain ⟨isName, -⟩ := finish afterKey
    exact absurd (eq_str_of_checkFieldName isName) (noText name)

/-! ## Properties of all fields -/

/-- Whether all fields of all types have a property. -/
def Every (registry : Registry) (holds : String → String → Field → Prop) : Prop :=
  ∀ entityType name field, (registry.get entityType).fields.find? name = some field →
    holds entityType name field

section Every

variable {holds : String → String → Field → Prop} (every : registry.Every holds)
include every

/-- A type with one field more that has the property. -/
theorem Every.of_declare (held : holds entityType name field)
    (declared : ∀ other, after.get other =
      if other = entityType then (registry.get other).declare name field
      else registry.get other) : after.Every holds := by
  intro other otherName otherField known
  rw [declared] at known
  split at known
  · rename_i sameType
    rw [Definition.declare, Table.find?_insert] at known
    split at known
    · rename_i sameName
      cases known
      rwa [sameType, sameName]
    · exact every other otherName otherField known
  · exact every other otherName otherField known

theorem Every.of_declareChecked {given : Value}
    {check : Registry → String → Except Failure (String × Field)}
    (checks : ∀ opened entityType name field, check opened entityType = .ok (name, field) →
      holds entityType name field) :
    (registry.declareChecked given check).2.Every holds := by
  rcases declareChecked_inv (Prod.eta (registry.declareChecked given check)).symm with
    ⟨-, same⟩ | ⟨entityType, name, field, -, -, -, accepted, declared⟩
  · intro other otherName otherField known
    rw [same] at known
    exact every other otherName otherField known
  · exact every.of_declare (checks _ _ _ _ accepted) declared

theorem Every.of_defineOn {rule? : Option Extractor} {inFullText : Bool}
    (checks : ∀ name field, checkField given rule? inFullText = .ok (name, field) →
      holds entityType name field) :
    (registry.defineOn entityType given rule? inFullText).2.Every holds := by
  unfold defineOn
  split
  · exact every
  · rename_i name field checked
    dsimp only
    split
    · exact every.of_declare (checks name field checked)
        (get_declare registry entityType name field)
    · exact every

theorem Every.of_merge {source : String}
    (moves : ∀ name field, holds source name field → holds entityType name field) :
    (registry.merge entityType source).Every holds := by
  intro other otherName otherField known
  rw [find?_merge] at known
  split at known
  · rename_i isOther
    rw [isOther.2]
    rcases Option.or_eq_some_iff.1 known with merged | ⟨-, kept⟩
    · exact moves _ _ (every source otherName otherField merged)
    · exact every entityType otherName otherField kept
  · exact every other otherName otherField known

end Every

theorem every_fresh (caseSensitive : Bool) (holds : String → String → Field → Prop) :
    (fresh caseSensitive).Every holds := by
  intro entityType name field known
  cases known

/-! ## Reachable registries -/

/-- The registries that declarations make from an empty one. -/
inductive IsReachable : Registry → Prop
  | fresh (caseSensitive : Bool) : IsReachable (fresh caseSensitive)
  | defineField {registry : Registry} (reachable : IsReachable registry)
      (entityType name : Value) (rule? : Option Extractor) (inFullText : Bool) :
      IsReachable (registry.defineField entityType name rule? inFullText).2
  | defineQualifier {registry : Registry} (reachable : IsReachable registry)
      (entityType name target : Value) :
      IsReachable (registry.defineQualifier entityType name target).2
  | defineOn {registry : Registry} (reachable : IsReachable registry) (entityType : String)
      (name : Value) (rule? : Option Extractor) (inFullText : Bool) :
      IsReachable (registry.defineOn entityType name rule? inFullText).2
  | merge {registry : Registry} (reachable : IsReachable registry) (entityType source : String) :
      IsReachable (registry.merge entityType source)

/-- What the checks ensure of a field, whatever its type, holds for all fields of a reachable
registry. -/
theorem every_of_reachable {holds : String → Field → Prop} (reachable : registry.IsReachable)
    (ofField : ∀ {given : Value} {rule? : Option Extractor} {inFullText : Bool} {name : String}
      {field : Field}, checkField given rule? inFullText = .ok (name, field) → holds name field)
    (ofAlias : ∀ {opened : Registry} {entityType : String} {given target : Value} {name : String}
      {field : Field}, opened.checkAlias entityType given target = .ok (name, field) →
        holds name field) : registry.Every fun _ => holds := by
  induction reachable with
  | fresh caseSensitive => exact every_fresh caseSensitive _
  | defineField _ entityType name rule? inFullText inductionHypothesis =>
      exact inductionHypothesis.of_declareChecked fun _ _ _ _ => ofField
  | defineQualifier _ entityType name target inductionHypothesis =>
      exact inductionHypothesis.of_declareChecked fun _ _ _ _ => ofAlias
  | defineOn _ entityType name rule? inFullText inductionHypothesis =>
      exact inductionHypothesis.of_defineOn fun _ _ => ofField
  | merge _ entityType source inductionHypothesis =>
      exact inductionHypothesis.of_merge fun _ _ held => held

/-! ## Declared registries -/

/-- The registries that declarations of fields and of aliases make from an empty one. -/
inductive IsDeclared : Registry → Prop
  | fresh (caseSensitive : Bool) : IsDeclared (fresh caseSensitive)
  | defineField {registry : Registry} (declared : IsDeclared registry)
      (entityType name : Value) (rule? : Option Extractor) (inFullText : Bool) :
      IsDeclared (registry.defineField entityType name rule? inFullText).2
  | defineQualifier {registry : Registry} (declared : IsDeclared registry)
      (entityType name target : Value) :
      IsDeclared (registry.defineQualifier entityType name target).2

theorem IsDeclared.isReachable (declared : registry.IsDeclared) : registry.IsReachable := by
  induction declared with
  | fresh caseSensitive => exact .fresh caseSensitive
  | defineField _ entityType name rule? inFullText inductionHypothesis =>
      exact inductionHypothesis.defineField entityType name rule? inFullText
  | defineQualifier _ entityType name target inductionHypothesis =>
      exact inductionHypothesis.defineQualifier entityType name target

/-- What the checks ensure of a field for its type holds for all fields of a declared registry. -/
theorem every_of_declared {holds : String → String → Field → Prop}
    (declared : registry.IsDeclared)
    (ofField : ∀ {given : Value} {rule? : Option Extractor} {inFullText : Bool}
      {entityType name : String} {field : Field},
      checkField given rule? inFullText = .ok (name, field) → holds entityType name field)
    (ofAlias : ∀ {opened : Registry} {entityType : String} {given target : Value} {name : String}
      {field : Field}, opened.checkAlias entityType given target = .ok (name, field) →
        holds entityType name field) : registry.Every holds := by
  induction declared with
  | fresh caseSensitive => exact every_fresh caseSensitive _
  | defineField _ entityType name rule? inFullText inductionHypothesis =>
      exact inductionHypothesis.of_declareChecked fun _ _ _ _ => ofField
  | defineQualifier _ entityType name target inductionHypothesis =>
      exact inductionHypothesis.of_declareChecked fun _ _ _ _ => ofAlias

/-- Whether every alias reads the type that it is a field of, and adds nothing to its full text. -/
def IsHomed (registry : Registry) : Prop :=
  ∀ entityType name field, (registry.get entityType).fields.find? name = some field →
    ∀ home target, field.source = .alias home target →
      home = entityType ∧ field.inFullText = false

theorem isHomed_of_declared (declared : registry.IsDeclared) : registry.IsHomed := by
  refine every_of_declared declared (fun checked home target isAlias => ?_)
    (fun checked home target isAlias => ?_)
  · obtain ⟨-, rule, -, rfl⟩ := checkField_inv checked
    cases isAlias
  · obtain ⟨-, ⟨behind, -, rfl⟩, -⟩ := checkAlias_inv checked
    cases isAlias
    exact ⟨rfl, rfl⟩

end Registry

end ShadowIndex
