import ShadowIndex.Proofs.Schema.Merging

/-!
Contract: what aliases read once they were merged into another type.

Owns:
- `Registry.reads`, what a type has for a record under a name, and `Registry.ReadsWithin`: every alias
  of a type reads what the type has under the target;
- `Registry.Develops`, what declarations, and merges into other types, make of a registry;
- `Registry.BringsAlias`, the aliases that a merge brings: they go on to read the type that they
  were declared for, and all others read their own (`Registry.merged_aliases`).

Does not own: fields of the full text.
-/

set_option autoImplicit false

namespace ShadowIndex

namespace Registry

variable {ρ : Type} {registry start after : Registry} {view : RecordView ρ} {record : ρ}
  {base other entityType name target : String} {field : Field}

/-! ## Reading a name -/

/-- What a type has for a record under a name: what its field of that name extracts, if that is no
alias, and else the plain attribute. -/
def reads (registry : Registry) (view : RecordView ρ) (record : ρ) (entityType name : String) :
    Except Failure Value :=
  match ((registry.get entityType).fields.find? name).bind Field.rule? with
  | some rule => rule.run view record
  | none => .ok ((view.snapshot record).get name .nothing)

theorem extractValue_of_alias {home : String} (source : field.source = .alias home target) :
    registry.extractValue view record field = registry.reads view record home target := by
  obtain ⟨_, inFullText⟩ := field
  cases source
  rfl

theorem reads_congr
    (same : (after.get entityType).fields.find? name = (registry.get other).fields.find? name) :
    after.reads view record entityType name = registry.reads view record other name := by
  simp only [reads, same]

/-- Whether every alias of a type reads what the type has under the target of the alias. -/
def ReadsWithin (registry : Registry) (entityType : String) : Prop :=
  ∀ (ρ : Type) (view : RecordView ρ) (record : ρ) (name target : String) (field : Field),
    (registry.get entityType).fields.find? name = some field → field.aliasOf? = some target →
    registry.extractValue view record field = registry.reads view record entityType target

/-! ## Later registries -/

/-- What declarations for any type, and merges into other types than one, make of a registry. -/
inductive Develops (base : String) (start : Registry) : Registry → Prop
  | refl : Develops base start start
  | defineField {registry : Registry} (earlier : Develops base start registry)
      (entityType name : Value) (rule? : Option Extractor) (inFullText : Bool) :
      Develops base start (registry.defineField entityType name rule? inFullText).2
  | defineQualifier {registry : Registry} (earlier : Develops base start registry)
      (entityType name target : Value) :
      Develops base start (registry.defineQualifier entityType name target).2
  | defineOn {registry : Registry} (earlier : Develops base start registry)
      (entityType : String) (name : Value) (rule? : Option Extractor) (inFullText : Bool) :
      Develops base start (registry.defineOn entityType name rule? inFullText).2
  | merge {registry : Registry} (earlier : Develops base start registry)
      (entityType source : String) (elsewhere : entityType ≠ base) :
      Develops base start (registry.merge entityType source)

/-- Whether a merge brings a type an alias that was declared for another. -/
structure BringsAlias (registry : Registry) (base other name : String) (field : Field) : Prop where
  hasDefinition : registry.definitions.contains base = true
  different : base ≠ other
  known : (registry.get other).fields.find? name = some field
  isAlias : field.aliasOf? ≠ none

/-- An alias of a type that reads the type, or that a merge brought from the type that it reads. -/
def IsTraced (registry : Registry) (base other : String) (entityType name : String)
    (field : Field) : Prop :=
  entityType = base → ∀ home target, field.source = .alias home target →
    home = base ∨ home = other ∧ registry.BringsAlias base other name field

theorem traced_merge (homed : registry.IsHomed) :
    (registry.merge base other).Every (registry.IsTraced base other) := by
  rintro _ name field known rfl home target source
  rw [find?_merge] at known
  split at known
  · rename_i opened
    rcases Option.or_eq_some_iff.1 known with merged | ⟨-, kept⟩
    · obtain ⟨rfl, -⟩ := homed other name field merged home target source
      rename_i base
      by_cases same : home = base
      · exact Or.inl same
      · refine Or.inr ⟨rfl, opened.1, fun equal => same equal.symm, merged, ?_⟩
        simp [Field.aliasOf?, source]
    · exact Or.inl (homed _ name field kept home target source).1
  · exact Or.inl (homed _ name field known home target source).1

/-- Every later alias of the type reads the type, or was brought by the merge. -/
theorem traced_of_develops (traced : start.Every (registry.IsTraced base other))
    (develops : Develops base start after) : after.Every (registry.IsTraced base other) := by
  have ofField : ∀ {given : Value} {rule? : Option Extractor} {inFullText : Bool}
      {entityType name : String} {field : Field},
      checkField given rule? inFullText = .ok (name, field) →
        registry.IsTraced base other entityType name field := by
    intro given rule? inFullText entityType name field checked _ home target source
    obtain ⟨-, rule, -, rfl⟩ := checkField_inv checked
    cases source
  induction develops with
  | refl => exact traced
  | defineField _ entityType name rule? inFullText inductionHypothesis =>
      exact inductionHypothesis.of_declareChecked fun _ _ _ _ => ofField
  | defineQualifier _ entityType name target inductionHypothesis =>
      refine inductionHypothesis.of_declareChecked
        fun _ _ _ _ checked isBase home target source => ?_
      obtain ⟨-, ⟨behind, -, rfl⟩, -⟩ := checkAlias_inv checked
      cases source
      exact Or.inl isBase
  | defineOn _ entityType name rule? inFullText inductionHypothesis =>
      exact inductionHypothesis.of_defineOn fun _ _ => ofField
  | merge _ entityType source elsewhere inductionHypothesis =>
      exact inductionHypothesis.of_merge fun _ _ _ isBase => absurd isBase elsewhere

/-! ## Aliases that a merge brings -/

theorem find?_of_bringsAlias (brings : registry.BringsAlias base other name field) :
    ((registry.merge base other).get base).fields.find? name = some field := by
  rw [find?_merge, if_pos ⟨brings.hasDefinition, rfl⟩, brings.known]
  rfl

theorem source_of_bringsAlias (homed : registry.IsHomed)
    (brings : registry.BringsAlias base other name field)
    (isAlias : field.aliasOf? = some target) : field.source = .alias other target := by
  obtain ⟨home, source⟩ := Field.source_of_aliasOf? isAlias
  obtain ⟨rfl, -⟩ := homed other name field brings.known home target source
  exact source

/-- At once after the merge, an alias that it brought reads what the type has under the target if the
other type knows the target, or if the type has the plain attribute under it. -/
theorem reads_at_once_iff (homed : registry.IsHomed)
    (brings : registry.BringsAlias base other name field) (isAlias : field.aliasOf? = some target) :
    (registry.merge base other).extractValue view record field =
        (registry.merge base other).reads view record base target ↔
      (registry.get other).fields.find? target ≠ none ∨
        registry.reads view record base target =
          .ok ((view.snapshot record).get target .nothing) := by
  have unchanged : ((registry.merge base other).get other).fields.find? target =
      (registry.get other).fields.find? target := by
    rw [find?_merge, if_neg fun both => brings.different both.2.symm]
  have merged : ((registry.merge base other).get base).fields.find? target =
      ((registry.get other).fields.find? target).or ((registry.get base).fields.find? target) := by
    rw [find?_merge, if_pos ⟨brings.hasDefinition, rfl⟩]
  rw [extractValue_of_alias (source_of_bringsAlias homed brings isAlias), reads_congr unchanged]
  cases behind : (registry.get other).fields.find? target with
  | some present =>
      rw [behind, Option.some_or] at merged
      simp [reads_congr (merged.trans behind.symm)]
  | none =>
      rw [behind, Option.none_or] at merged
      have plain : registry.reads view record other target =
          .ok ((view.snapshot record).get target .nothing) := by
        simp [reads, behind]
      simp [reads_congr merged, plain, eq_comm]

/-- The target of an alias is a name that a field can have. -/
theorem checkFieldName_target (declared : registry.IsDeclared) {home : String}
    (known : (registry.get entityType).fields.find? name = some field)
    (source : field.source = .alias home target) : checkFieldName (.str target) = .ok target := by
  have checked : registry.Every fun _ _ field => ∀ home target,
      field.source = .alias home target → checkFieldName (.str target) = .ok target := by
    refine every_of_declared declared (fun checked home target source => ?_)
      (fun checked home target source => ?_)
    · obtain ⟨-, rule, -, rfl⟩ := checkField_inv checked
      cases source
    · obtain ⟨-, ⟨behind, isTarget, rfl⟩, -⟩ := checkAlias_inv checked
      cases source
      cases eq_str_of_checkFieldName isTarget
      exact isTarget
  exact checked entityType name field known home target source

/-- A type with a definition takes a field with a constant value. -/
theorem defineOn_constant (hasDefinition : registry.definitions.contains entityType = true)
    (isName : checkFieldName (.str name) = .ok name) (value : Value) :
    (registry.defineOn entityType (.str name) (some (.constant value)) false).2 =
      registry.declare entityType name ⟨.extractor (.constant value), false⟩ := by
  have checked : checkField (.str name) (some (.constant value)) false =
      .ok (name, ⟨.extractor (.constant value), false⟩) := by
    rw [checkField, isName]
    rfl
  simp only [defineOn, checked, hasDefinition, if_true]

theorem exists_other_value (outcome : Except Failure Value) :
    ∃ value : Value, Except.ok value ≠ outcome := by
  by_cases nothing : Except.ok .nothing = outcome
  · exact ⟨.str "", nothing ▸ fun same => by cases same⟩
  · exact ⟨.nothing, nothing⟩

/-- An alias that a merge brought follows the other type: a field that is declared there later makes
it read something else than the type has under the target. -/
theorem exists_development (declared : registry.IsDeclared)
    (brings : registry.BringsAlias base other name field) (isAlias : field.aliasOf? = some target)
    (view : RecordView ρ) (record : ρ) :
    ∃ after, Develops base (registry.merge base other) after ∧
      (after.get base).fields.find? name = some field ∧
      after.extractValue view record field ≠ after.reads view record base target := by
  have source := source_of_bringsAlias (isHomed_of_declared declared) brings isAlias
  have isName := checkFieldName_target declared brings.known source
  have stillKnown : ((registry.merge base other).get other).fields.find? name = some field := by
    rw [find?_merge, if_neg fun both => brings.different both.2.symm]
    exact brings.known
  obtain ⟨value, differs⟩ :=
    exists_other_value ((registry.merge base other).reads view record base target)
  refine ⟨(registry.merge base other).declare other target ⟨.extractor (.constant value), false⟩,
    ?_, ?_, ?_⟩
  · rw [← defineOn_constant (contains_of_find? stillKnown) isName]
    exact Develops.refl.defineOn other (.str target) (some (.constant value)) false
  · rw [get_declare, if_neg brings.different]
    exact find?_of_bringsAlias brings
  · have unchanged : (((registry.merge base other).declare other target
        ⟨.extractor (.constant value), false⟩).get base).fields.find? target =
          ((registry.merge base other).get base).fields.find? target := by
      rw [get_declare, if_neg brings.different]
    rw [extractValue_of_alias source, reads_congr unchanged]
    simpa [reads, get_declare, Definition.declare, Table.find?_insert, Field.rule?,
      Extractor.constant, Extractor.run] using differs

/-! ## Merged aliases -/

/-- What the aliases of a type read after a merge. -/
structure MergedAliases (registry : Registry) (base other : String) : Prop where
  /-- Whatever happens later, an alias reads its type, or the merge brought it and it reads the type
  that it was declared for. -/
  reading : ∀ after, Develops base (registry.merge base other) after →
    ∀ (name target : String) (field : Field), (after.get base).fields.find? name = some field →
      field.aliasOf? = some target →
      (∀ (ρ : Type) (view : RecordView ρ) (record : ρ), after.extractValue view record field =
        after.reads view record base target) ∨
      registry.BringsAlias base other name field ∧
        ∀ (ρ : Type) (view : RecordView ρ) (record : ρ), after.extractValue view record field =
          after.reads view record other target
  /-- At once after the merge, an alias that it brought reads the type exactly if the other type
  knows the target, or the type has the plain attribute under it. -/
  atOnce : ∀ (name target : String) (field : Field), registry.BringsAlias base other name field →
    field.aliasOf? = some target → ∀ (ρ : Type) (view : RecordView ρ) (record : ρ),
      ((registry.merge base other).extractValue view record field =
          (registry.merge base other).reads view record base target ↔
        (registry.get other).fields.find? target ≠ none ∨
          registry.reads view record base target =
            .ok ((view.snapshot record).get target .nothing))
  /-- The aliases of the type read the type, whatever happens later, exactly if the merge brings
  none. -/
  throughout : (∀ after, Develops base (registry.merge base other) after →
      after.ReadsWithin base) ↔ ¬ ∃ name field, registry.BringsAlias base other name field

theorem merged_aliases (declared : registry.IsDeclared) (base other : String) :
    registry.MergedAliases base other where
  reading after develops name target field known isAlias := by
    obtain ⟨home, source⟩ := Field.source_of_aliasOf? isAlias
    rcases traced_of_develops (traced_merge (isHomed_of_declared declared)) develops base name field
      known rfl home target source with rfl | ⟨rfl, brings⟩
    · exact Or.inl fun _ _ _ => extractValue_of_alias source
    · exact Or.inr ⟨brings, fun _ _ _ => extractValue_of_alias source⟩
  atOnce _ _ _ brings isAlias _ _ _ :=
    reads_at_once_iff (isHomed_of_declared declared) brings isAlias
  throughout := by
    constructor
    · rintro within ⟨name, field, brings⟩
      obtain ⟨target, isAlias⟩ := Option.ne_none_iff_exists'.1 brings.isAlias
      obtain ⟨after, develops, known, differs⟩ :=
        exists_development declared brings isAlias RecordTree.view default
      exact differs (within after develops _ _ _ name target field known isAlias)
    · intro none after develops ρ view record name target field known isAlias
      obtain ⟨home, source⟩ := Field.source_of_aliasOf? isAlias
      rcases traced_of_develops (traced_merge (isHomed_of_declared declared)) develops base name
        field known rfl home target source with rfl | ⟨-, brings⟩
      · exact extractValue_of_alias source
      · exact absurd ⟨name, field, brings⟩ none

/-! ## Users and members -/

/-- Users have a name that reads their nickname, members an attribute with another name. -/
def membersBy (otherName target : String) : Registry :=
  ((fresh true).defineField (.str "user") (.str "name") (some (.attributes ["nick"])) true).2
    |>.defineQualifier (.str "member") (.str otherName) (.str target) |>.2

theorem isDeclared_membersBy (otherName target : String) :
    (membersBy otherName target).IsDeclared :=
  ((IsDeclared.fresh true).defineField (.str "user") (.str "name") (some (.attributes ["nick"]))
    true).defineQualifier (.str "member") (.str otherName) (.str target)

/-- The alias of an attribute that users have no field for reads the users that it is merged into,
but not whatever happens later. -/
theorem merged_aliases_town :
    (membersBy "town" "city").IsDeclared ∧
      (membersBy "town" "city").BringsAlias "user" "member" "town" ⟨.alias "member" "city", false⟩ ∧
      (∀ record : RecordTree, ((membersBy "town" "city").merge "user" "member").extractValue
          RecordTree.view record ⟨.alias "member" "city", false⟩ =
        ((membersBy "town" "city").merge "user" "member").reads RecordTree.view record "user"
          "city") ∧
      ¬ ∀ after, Develops "user" ((membersBy "town" "city").merge "user" "member") after →
        after.ReadsWithin "user" := by
  have declared := isDeclared_membersBy "town" "city"
  have brings : (membersBy "town" "city").BringsAlias "user" "member" "town"
      ⟨.alias "member" "city", false⟩ := ⟨rfl, by decide, rfl, Option.some_ne_none _⟩
  have aliases := merged_aliases declared "user" "member"
  refine ⟨declared, brings, fun record => ?_, fun within => ?_⟩
  · exact (aliases.atOnce "town" "city" _ brings rfl _ RecordTree.view record).2 (Or.inr rfl)
  · exact aliases.throughout.1 within ⟨_, _, brings⟩

/-- A merged alias of the name of users reads the attribute that members have under it. -/
theorem merged_alias_leaves_type :
    (membersBy "who" "name").IsDeclared ∧
      (((membersBy "who" "name").merge "user" "member").get "user").fields.find? "who" =
        some ⟨.alias "member" "name", false⟩ ∧
      ((membersBy "who" "name").merge "user" "member").extractValue RecordTree.view
          (.node ⟨⟨"user", .int 1⟩, .ofList [("name", .str "abraham"), ("nick", .str "abe")]⟩ [])
          ⟨.alias "member" "name", false⟩ = .ok (.str "abraham") ∧
      ((membersBy "who" "name").merge "user" "member").reads RecordTree.view
          (.node ⟨⟨"user", .int 1⟩, .ofList [("name", .str "abraham"), ("nick", .str "abe")]⟩ [])
          "user" "name" = .ok (.list [.str "abe"]) ∧
      ¬ ((membersBy "who" "name").merge "user" "member").ReadsWithin "user" := by
  refine ⟨isDeclared_membersBy "who" "name", rfl, rfl, rfl, fun within => ?_⟩
  have same : (.ok (.str "abraham") : Except Failure Value) = .ok (.list [.str "abe"]) :=
    within RecordTree RecordTree.view
      (.node ⟨⟨"user", .int 1⟩, .ofList [("name", .str "abraham"), ("nick", .str "abe")]⟩ [])
      "who" "name" ⟨.alias "member" "name", false⟩ rfl rfl
  cases same

end Registry

end ShadowIndex
