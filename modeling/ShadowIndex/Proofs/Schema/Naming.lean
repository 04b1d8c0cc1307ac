import ShadowIndex.Proofs.Query.Concatenation
import ShadowIndex.Proofs.Query.Qualifier
import ShadowIndex.Proofs.Schema.Declared
import ShadowIndex.Proofs.Schema.Extraction
import ShadowIndex.Proofs.Text.Folding

/-!
Contract: the names of fields, and which of them a query can name.

Owns:
- `IsProperName`, what is checked of a name (`checkFieldName_eq_ok_iff`);
- all fields of a reachable registry have proper names (`Registry.isProper_of_reachable`);
- `Registry.Declares`, an accepted declaration: its field can be named in queries exactly if the
  name does not start with a double quote, and else no query selects it (`named_in_queries_iff`).

Does not own: the texts of a field.
-/

set_option autoImplicit false

namespace ShadowIndex

open Text (isBlank doubleQuote)

/-! ## Proper names -/

/-- A name that a field can have. -/
structure IsProperName (name : String) : Prop where
  nonempty : name.toList ≠ []
  solid : ∀ c ∈ name.toList, isBlank c = false
  noColon : ':' ∉ name.toList

instance (name : String) : Decidable (IsProperName name) :=
  decidable_of_iff (name.toList ≠ [] ∧ name.toList.all (fun c => !isBlank c) = true ∧
      ':' ∉ name.toList)
    ⟨fun ⟨nonempty, solid, noColon⟩ => ⟨nonempty, by simpa using solid, noColon⟩,
      fun proper => ⟨proper.nonempty, by simpa using proper.solid, proper.noColon⟩⟩

theorem checkFieldName_eq_ok_iff (given : Value) (name : String) :
    checkFieldName given = .ok name ↔ given = .str name ∧ IsProperName name := by
  constructor
  · intro checked
    unfold checkFieldName at checked
    split at checked
    · rename_i text
      split at checked
      · cases checked
      · rename_i nonempty
        split at checked
        · cases checked
        · rename_i clean
          cases checked
          simp only [List.any_eq_true, Bool.or_eq_true, beq_iff_eq, not_exists, not_and, not_or,
            Bool.not_eq_true] at clean
          exact ⟨rfl, by simpa using nonempty, fun c member => (clean c member).2,
            fun colon => (clean ':' colon).1 rfl⟩
    · cases checked
  · rintro ⟨rfl, nonempty, solid, noColon⟩
    have isNonempty : name.isEmpty = false := by simpa using nonempty
    have clean : (name.toList.any fun c => c == ':' || isBlank c) = false := by
      rw [List.any_eq_false]
      intro c member
      have different : c ≠ ':' := fun same => noColon (same ▸ member)
      simp [different, solid c member]
    simp [checkFieldName, isNonempty, clean]

/-- A proper name stands in front of a colon as it is, unless a quote opens it. -/
theorem isFieldName_iff (name : String) :
    Term.IsFieldName name.toList ↔ IsProperName name ∧ name.toList.head? ≠ some doubleQuote :=
  ⟨fun isName => ⟨⟨isName.nonempty, isName.solid, isName.noColon⟩, isName.unquoted⟩,
    fun ⟨proper, unquoted⟩ => ⟨⟨proper.nonempty, proper.solid, unquoted⟩, proper.noColon⟩⟩

namespace Registry

variable {registry after : Registry} {entityType name : String} {field : Field}

/-! ## Reachable registries -/

/-- Whether all fields of all types have proper names. -/
def IsProper (registry : Registry) : Prop :=
  ∀ entityType name field, (registry.get entityType).fields.find? name = some field →
    IsProperName name

/-- All fields of a registry have proper names, whatever was declared, merged or refused. -/
theorem isProper_of_reachable (reachable : registry.IsReachable) : registry.IsProper := by
  refine every_of_reachable reachable (fun checked => ?_) (fun checked => ?_)
  · exact ((checkFieldName_eq_ok_iff _ _).1 (checkField_inv checked).1).2
  · exact ((checkFieldName_eq_ok_iff _ _).1 (checkAlias_inv checked).1).2

/-! ## Names in queries -/

/-- A declaration of a field, or of an alias, that is accepted. -/
inductive Declares (registry : Registry) (entityType given : Value) :
    String → Field → Registry → Prop
  | ofField {name : String} {field : Field} {after : Registry} (rule? : Option Extractor)
      (inFullText : Bool)
      (accepted : registry.defineField entityType given rule? inFullText =
        (.ok (name, field), after)) : Declares registry entityType given name field after
  | ofAlias {name : String} {field : Field} {after : Registry} (target : Value)
      (accepted : registry.defineQualifier entityType given target =
        (.ok (name, field), after)) : Declares registry entityType given name field after

theorem known_of_declareChecked {given : Value}
    {check : Registry → String → Except Failure (String × Field)}
    (accepted : registry.declareChecked given check = (.ok (name, field), after)) :
    ∃ entityType, given = .str entityType ∧
      check (registry.withType entityType) entityType = .ok (name, field) ∧
      (after.get entityType).fields.find? name = some field := by
  rcases declareChecked_inv accepted with
    ⟨⟨failure, impossible⟩, -⟩ | ⟨entityType, name, field, isType, -, same, checked, declared⟩
  · cases impossible
  · cases same
    refine ⟨entityType, isType, checked, ?_⟩
    rw [declared, if_pos rfl, Definition.declare, Table.find?_insert, if_pos rfl]

/-- What is declared has the name that was given, a proper one, and is the field of that name. -/
theorem Declares.inv {given : Value}
    (declares : registry.Declares (.str entityType) given name field after) :
    given = .str name ∧ IsProperName name ∧
      (after.get entityType).fields.find? name = some field := by
  cases declares with
  | ofField rule? inFullText accepted =>
      obtain ⟨_, isType, checked, known⟩ := known_of_declareChecked accepted
      cases isType
      have named := (checkFieldName_eq_ok_iff _ _).1 (checkField_inv checked).1
      exact ⟨named.1, named.2, known⟩
  | ofAlias target accepted =>
      obtain ⟨_, isType, checked, known⟩ := known_of_declareChecked accepted
      cases isType
      have named := (checkFieldName_eq_ok_iff _ _).1 (checkAlias_inv checked).1
      exact ⟨named.1, named.2, known⟩

theorem IsReachable.of_declares {given : Value} (reachable : registry.IsReachable)
    (declares : registry.Declares (.str entityType) given name field after) :
    after.IsReachable := by
  cases declares with
  | ofField rule? inFullText accepted =>
      have defined := reachable.defineField (.str entityType) given rule? inFullText
      rwa [accepted] at defined
  | ofAlias target accepted =>
      have defined := reachable.defineQualifier (.str entityType) given target
      rwa [accepted] at defined

end Registry

/-- A field whose name starts with a double quote is selected by no qualifier of a query, whether
case matters or not. -/
theorem Definition.not_selected_of_quoted {definition : Definition} {name qualifier : String}
    {field : Field} (quoted : name.toList.head? = some doubleQuote)
    (unquoted : qualifier.toList.head? ≠ some doubleQuote) :
    definition.resolve qualifier ≠ some (name, field) := by
  intro selected
  unfold resolve at selected
  split at selected
  · cases selected
    exact unquoted quoted
  · split at selected
    · cases selected
    · have sameFold : Text.foldCase name = Text.foldCase qualifier := by
        simpa using List.find?_some selected
      have folds := congrArg String.toList sameFold
      rw [Text.toList_foldCase, Text.toList_foldCase] at folds
      have isSeparator := Text.isSeparator_doubleQuote
      apply unquoted
      rw [← Text.head?_fold_iff isSeparator, ← folds, Text.head?_fold_iff isSeparator]
      exact quoted

namespace Registry

variable {registry after : Registry} {entityType name : String} {field : Field}

/-- Whether a field can be named in front of every word, and in front of every quoted text. -/
def IsNamedInQueries (name : String) : Prop :=
  ∀ word phrase : String, Term.IsBare word.toList → doubleQuote ∉ phrase.toList →
    (Query.parse (name ++ ":" ++ word)).terms = [.qualified name (.word word)] ∧
      (Query.parse (name ++ ":\"" ++ phrase ++ "\"")).terms =
        [.qualified name (.phrase (Text.normalize [phrase]))]

theorem isNamedInQueries_of_isFieldName (isName : Term.IsFieldName name.toList) :
    IsNamedInQueries name := by
  intro word phrase bare clean
  rw [Query.parse_fieldWord isName bare, Query.parse_fieldQuoted isName clean]
  exact ⟨rfl, rfl⟩

theorem isFieldName_of_isNamedInQueries (named : IsNamedInQueries name) :
    Term.IsFieldName name.toList := by
  have bare : Term.IsBare "a".toList := by decide +kernel
  have read := (named "a" "" bare (by decide)).1
  have member : .qualified name (.word "a") ∈ (Query.parse (name ++ ":" ++ "a")).terms := by
    simp [read]
  exact Query.isFieldName_of_mem member

/-- A field that is declared is the one that its name selects. Queries can name it, in front of
every word and of every quoted text, exactly if its name does not start with a double quote. Else
no qualifier of any query selects it. -/
theorem named_in_queries_iff {given : Value}
    (declares : registry.Declares (.str entityType) given name field after) :
    given = .str name ∧ after.resolve entityType name = some (name, field) ∧
      (IsNamedInQueries name ↔ name.toList.head? ≠ some doubleQuote) ∧
      (name.toList.head? = some doubleQuote →
        ∀ text, ∀ qualifier ∈ (Query.parse text).qualifiers,
          ∀ other, after.resolve entityType qualifier ≠ some (name, other)) := by
  obtain ⟨isGiven, proper, known⟩ := declares.inv
  refine ⟨isGiven, Definition.resolve_of_find? known, ?_, ?_⟩
  · constructor
    · intro named
      exact (isFieldName_of_isNamedInQueries named).unquoted
    · intro unquoted
      exact isNamedInQueries_of_isFieldName ((isFieldName_iff name).2 ⟨proper, unquoted⟩)
  · intro quoted text qualifier member other
    obtain ⟨term, isTerm, isQualifier⟩ := (Query.mem_qualifiers_iff _ _).1 member
    cases term with
    | plain value => cases isQualifier
    | qualified _ value =>
        cases isQualifier
        exact Definition.not_selected_of_quoted quoted (Query.isFieldName_of_mem isTerm).unquoted

/-! ## Two users -/

/-- A registry in which users have one field, which reads their name. -/
def usersBy (name : String) : Registry :=
  ((fresh true).withType "user").declare "user" name ⟨.extractor (.attributes ["name"]), true⟩

theorem declares_usersBy {name : String} (proper : IsProperName name) :
    (fresh true).Declares (.str "user") (.str name) name
      ⟨.extractor (.attributes ["name"]), true⟩ (usersBy name) := by
  have isName := (checkFieldName_eq_ok_iff (.str name) name).2 ⟨rfl, proper⟩
  refine .ofField (some (.attributes ["name"])) true ?_
  simp only [defineField, declareChecked, checkField, isName]
  rfl

/-- A name with a quote inside can be named. -/
theorem named_in_queries_nickname :
    (fresh true).Declares (.str "user") (.str "nick\"name") "nick\"name"
        ⟨.extractor (.attributes ["name"]), true⟩ (usersBy "nick\"name") ∧
      "nick\"name".toList.head? ≠ some doubleQuote ∧ IsNamedInQueries "nick\"name" := by
  have declares := declares_usersBy (show IsProperName "nick\"name" by decide +kernel)
  have unquoted : "nick\"name".toList.head? ≠ some doubleQuote := by decide
  exact ⟨declares, unquoted, (named_in_queries_iff declares).2.2.1.2 unquoted⟩

/-- A name with a quote in front is accepted, and a query with it reads as one unclosed word. -/
theorem quoted_name_unread :
    (fresh true).Declares (.str "user") (.str "\"name") "\"name"
        ⟨.extractor (.attributes ["name"]), true⟩ (usersBy "\"name") ∧
      (Query.parse "\"name:abraham").terms = [.plain (.word "\"name:abraham")] ∧
      ¬ IsNamedInQueries "\"name" := by
  have declares := declares_usersBy (show IsProperName "\"name" by decide +kernel)
  have tokens : Token.scan "\"name:abraham".toList = [.unclosed "\"name:abraham"] := by
    decide +kernel
  have read : (Query.parse "\"name:abraham").terms = [.plain (.word "\"name:abraham")] := by
    rw [Query.parse, Query.tokenize, tokens]
    rfl
  refine ⟨declares, read, fun named => ?_⟩
  have bare : Term.IsBare "abraham".toList := by decide +kernel
  have wanted := (named "abraham" "" bare (by decide)).1
  rw [show "\"name" ++ ":" ++ "abraham" = "\"name:abraham" from rfl, read] at wanted
  cases wanted

end Registry

end ShadowIndex
