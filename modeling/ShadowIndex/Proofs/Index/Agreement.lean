import ShadowIndex.Proofs.Index.Matching
import ShadowIndex.Proofs.Schema.Steady

/-!
Contract: the texts that one build makes agree with each other.

Owns:
- the normal form of joined fragments, from the normal forms of its parts (`normalize_flatten`);
- the full text of a build joins the texts of its fields, there is one text for each name, an alias
  has the text of its field, and what matches in a field of the full text, or in an alias of one,
  matches without a qualifier (`texts_agree`).

Does not own: which words a text holds.
-/

set_option autoImplicit false

namespace ShadowIndex

namespace Text

/-! ## Joining in groups -/

theorem joinSpaced_append {left right : List (List Char)} (leftNonempty : left ≠ [])
    (rightNonempty : right ≠ []) :
    joinSpaced (left ++ right) = joinSpaced left ++ ' ' :: joinSpaced right := by
  induction left with
  | nil => exact absurd rfl leftNonempty
  | cons text rest inductionHypothesis =>
      by_cases last : rest = []
      · subst last
        rw [List.singleton_append, joinSpaced_cons _ rightNonempty, joinSpaced_singleton]
      · rw [List.cons_append, joinSpaced_cons _ (by simp [last]), inductionHypothesis last,
          joinSpaced_cons _ last, List.append_assoc, List.cons_append]

/-- Texts joined group by group are the texts joined at once, if groups without a text are left
out. -/
theorem joinSpaced_flatten (groups : List (List (List Char))) :
    joinSpaced groups.flatten =
      joinSpaced ((groups.filter fun group => !group.isEmpty).map joinSpaced) := by
  induction groups with
  | nil => rfl
  | cons group rest inductionHypothesis =>
      rw [List.flatten_cons, List.filter_cons]
      by_cases empty : group = []
      · simpa [empty] using inductionHypothesis
      · rw [if_pos (by simpa using empty), List.map_cons]
        by_cases last : rest.flatten = []
        · have noneLeft : (rest.filter fun group => !group.isEmpty) = [] := by
            simpa using last
          rw [last, noneLeft, List.append_nil, List.map_nil, joinSpaced_singleton]
        · have someLeft : (rest.filter fun group => !group.isEmpty).map joinSpaced ≠ [] := by
            simpa using last
          rw [joinSpaced_append empty last, joinSpaced_cons _ someLeft, inductionHypothesis]

theorem joinSpaced_eq_nil_iff {texts : List (List Char)} (nonempty : ∀ text ∈ texts, text ≠ []) :
    joinSpaced texts = [] ↔ texts = [] := by
  cases texts with
  | nil => simp [joinSpaced]
  | cons text rest =>
      have first := nonempty text List.mem_cons_self
      by_cases last : rest = []
      · simp [last, first]
      · simp [joinSpaced_cons text last]

theorem infix_joinSpaced {text : List Char} {texts : List (List Char)} (member : text ∈ texts) :
    text <:+: joinSpaced texts := by
  induction texts with
  | nil => cases member
  | cons first rest inductionHypothesis =>
      by_cases last : rest = []
      · subst last
        rw [List.mem_singleton.1 member, joinSpaced_singleton]
      · rw [joinSpaced_cons first last]
        rcases List.mem_cons.1 member with rfl | later
        · exact (List.prefix_append _ _).isInfix
        · exact (inductionHypothesis later).trans
            ((List.suffix_cons _ _).trans (List.suffix_append _ _)).isInfix

/-- The normal form of fragments in groups joins the normal forms of the groups that hold a word. -/
theorem normalizeChars_flatten (groups : List (List (List Char))) :
    normalizeChars groups.flatten =
      joinSpaced ((groups.map normalizeChars).filter fun text => !text.isEmpty) := by
  have wordless (group : List (List Char)) :
      (group.flatMap words).isEmpty = (normalizeChars group).isEmpty := by
    have nonempty : ∀ word ∈ group.flatMap words, word ≠ [] := by
      intro word member
      obtain ⟨fragment, -, isWord⟩ := List.mem_flatMap.1 member
      exact ((mem_words_iff fragment word).1 isWord).nonempty
    rw [normalizeChars_eq, Bool.eq_iff_iff, List.isEmpty_iff, List.isEmpty_iff,
      joinSpaced_eq_nil_iff nonempty]
  have grouped : groups.flatten.flatMap words =
      (groups.map fun group => group.flatMap words).flatten := by
    simp [List.flatMap_def, List.map_flatten, List.flatten_flatten, Function.comp_def]
  rw [normalizeChars_eq, grouped, joinSpaced_flatten, List.filter_map, List.filter_map,
    List.map_map]
  simp only [Function.comp_def, wordless, ← normalizeChars_eq]

/-- The normal form of fragments in groups joins the texts of the groups, without empty ones. -/
theorem normalize_flatten (groups : List (List String)) :
    normalize groups.flatten =
      " ".intercalate ((groups.map normalize).filter fun text => !text.isEmpty) := by
  have empties (text : String) : text.isEmpty = text.toList.isEmpty := by
    rw [Bool.eq_iff_iff, List.isEmpty_iff, String.isEmpty_iff, String.toList_eq_nil_iff]
  have space : " ".toList = [' '] := rfl
  rw [← String.toList_inj, toList_normalize, String.toList_intercalate, List.map_flatten,
    normalizeChars_flatten, joinSpaced, space]
  simp only [List.filter_map, List.map_map, Function.comp_def, empties, toList_normalize]

theorem infix_intercalate {text : String} {texts : List String} (member : text ∈ texts) :
    text.toList <:+: (" ".intercalate texts).toList := by
  have space : " ".toList = [' '] := rfl
  rw [String.toList_intercalate, space]
  exact infix_joinSpaced (List.mem_map_of_mem member)

/-- What is found in a text is found in every text around it. -/
theorem contains_of_infix_of_contains {inner outer word : String}
    (stands : inner.toList <:+: outer.toList) (found : contains inner word = true) :
    contains outer word = true := by
  rw [contains_iff] at found ⊢
  obtain ⟨before, after, whole⟩ := stands
  rw [← whole, fold_append, fold_append]
  exact found.trans ⟨fold before, fold after, rfl⟩

end Text

/-- Whether a qualifier selects a field of the full text, or an alias of one. -/
def Definition.SelectsFullText (definition : Definition) (qualifier : String) : Prop :=
  ∃ name field, definition.resolve qualifier = some (name, field) ∧
    (field.inFullText = true ∨ ∃ target behind, field.aliasOf? = some target ∧
      definition.fields.find? target = some behind ∧ behind.inFullText = true)

namespace Registry

variable {registry after : Registry} {entityType name : String} {field : Field}

/-! ## The texts of one build -/

variable {ρ : Type} {view : RecordView ρ} {record : ρ} {streams : Streams} {texts : SearchTexts}
  {extracted : List (String × Field × List String)}

/-- A build makes one text for each name of its type, in the order of the names. -/
theorem keys_textsOf
    (extracts : (registry.extractAll view entityType record streams).1 = .ok extracted) :
    (textsOf extracted).fields.keys = (registry.get entityType).names := by
  rw [Table.keys, rows_textsOf extracts, Definition.names, Table.keys,
    ← fields_of_extractAll extracts, List.map_map, List.map_map]
  rfl

/-- The texts of the fields that contribute to the full text, in order. -/
def contributions (definition : Definition) (texts : SearchTexts) : List String :=
  definition.fullTextFields.filterMap fun row => texts.fields.find? row.1

theorem contributions_textsOf
    (extracts : (registry.extractAll view entityType record streams).1 = .ok extracted) :
    contributions (registry.get entityType) (textsOf extracted) =
      ((extracted.filter fun row => row.2.1.inFullText).map fun row => row.2.2).map
        Text.normalize := by
  rw [contributions, Definition.fullTextFields, ← fields_of_extractAll extracts, List.filter_map,
    List.filterMap_map, List.map_map, ← List.filterMap_eq_map]
  refine List.filterMap_congr fun row member => ?_
  obtain ⟨name, field, fragments⟩ := row
  exact (find?_textsOf_iff extracts name _).2 ⟨field, fragments, List.mem_of_mem_filter member, rfl⟩

/-- The full text joins the texts of the fields that contribute to it, without empty ones. -/
theorem full_textsOf
    (extracts : (registry.extractAll view entityType record streams).1 = .ok extracted) :
    (textsOf extracted).full = " ".intercalate
      ((contributions (registry.get entityType) (textsOf extracted)).filter
        fun text => !text.isEmpty) := by
  rw [contributions_textsOf extracts, ← Text.normalize_flatten, ← List.flatMap_def]
  rfl

/-- What is extracted was given by its field, from some state of the streams. The induction is on
the fields that are still to be read. -/
theorem exists_extractNamed
    (extracts : (registry.extractAll view entityType record streams).1 = .ok extracted)
    {row : String × Field × List String} (member : row ∈ extracted) :
    ∃ before, (registry.extractNamed view record (row.1, row.2.1) before).1 = .ok row := by
  unfold extractAll at extracts
  generalize (registry.get entityType).fields.rows = rows at extracts
  induction rows generalizing streams extracted with
  | nil =>
      cases extracts
      cases member
  | cons first rest inductionHypothesis =>
      rw [Action.each, Action.bind_apply] at extracts
      split at extracts
      · rename_i outcome after firstExtracts
        rw [Action.bind_apply] at extracts
        split at extracts
        · rename_i others last restExtracts
          cases extracts
          rcases List.mem_cons.1 member with rfl | later
          · obtain ⟨sameName, sameField⟩ := extractNamed_inv firstExtracts
            exact ⟨streams, by rw [sameName, sameField, firstExtracts]⟩
          · exact inductionHypothesis later (by rw [restExtracts])
        · cases extracts
      · cases extracts

/-- The fragments of a field with steady values are those of its value. -/
theorem fragments_of_extractAll (steady : registry.IsSteadyFor view entityType record)
    (extracts : (registry.extractAll view entityType record streams).1 = .ok extracted)
    {fragments : List String} (member : (name, field, fragments) ∈ extracted) :
    ∃ value, registry.extractValue view record field = .ok value ∧ fragments = value.fragments := by
  have isRow : (name, field) ∈ (registry.get entityType).fields.rows := by
    rw [← fields_of_extractAll extracts]
    exact List.mem_map.2 ⟨_, member, rfl⟩
  obtain ⟨before, gives⟩ := exists_extractNamed extracts member
  cases found : registry.extractValue view record field with
  | error failure =>
      simp [extractNamed, extract_of_view, found, Action.bind_apply, Action.lift] at gives
  | ok value =>
      refine ⟨value, rfl, ?_⟩
      have drawn := steady (name, field) isRow value found before
      have given : (registry.extractNamed view record (name, field) before).1 =
          .ok (name, field, value.fragments) := by
        simp [extractNamed, extract_of_view, found, Action.bind_apply, Action.lift,
          Value.drawFragments, drawn]
      rw [given] at gives
      cases gives
      rfl

/-- An alias of a field that is no alias has the text of that field. -/
theorem alias_textsOf (homed : registry.IsHomed)
    (steady : registry.IsSteadyFor view entityType record)
    (extracts : (registry.extractAll view entityType record streams).1 = .ok extracted)
    {target : String} {behind : Field}
    (known : (registry.get entityType).fields.find? name = some field)
    (isAlias : field.aliasOf? = some target)
    (knownBehind : (registry.get entityType).fields.find? target = some behind)
    (isField : behind.aliasOf? = none) :
    (textsOf extracted).fields.find? name = (textsOf extracted).fields.find? target := by
  have sameValue : registry.extractValue view record field =
      registry.extractValue view record behind := by
    obtain ⟨home, source⟩ := Field.source_of_aliasOf? isAlias
    obtain ⟨rfl, -⟩ := homed entityType name field known home target source
    obtain ⟨rule, behindSource⟩ := Field.source_of_not_aliasOf? isField
    simp [extractValue, source, behindSource, knownBehind, Field.rule?]
  obtain ⟨fragments, member⟩ := exists_extracted extracts known
  obtain ⟨others, otherMember⟩ := exists_extracted extracts knownBehind
  obtain ⟨value, gives, rfl⟩ := fragments_of_extractAll steady extracts member
  obtain ⟨other, otherGives, rfl⟩ := fragments_of_extractAll steady extracts otherMember
  rw [sameValue, otherGives] at gives
  cases gives
  rw [(find?_textsOf_iff extracts name _).2 ⟨field, _, member, rfl⟩,
    (find?_textsOf_iff extracts target _).2 ⟨behind, _, otherMember, rfl⟩]

/-! ## Matches -/

/-- What is found in the text of a field of the full text is found in the full text. -/
theorem contains_full
    (extracts : (registry.extractAll view entityType record streams).1 = .ok extracted)
    (known : (registry.get entityType).fields.find? name = some field)
    (inFull : field.inFullText = true) {text word : String}
    (found : (textsOf extracted).fields.find? name = some text)
    (contained : Text.contains text word = true) :
    Text.contains (textsOf extracted).full word = true := by
  refine Text.contains_of_infix_of_contains ?_ contained
  have contributes : text ∈ contributions (registry.get entityType) (textsOf extracted) :=
    List.mem_filterMap.2 ⟨(name, field), List.mem_filter.2
      ⟨(Table.find?_eq_some_iff _ _ _).1 known, inFull⟩, found⟩
  rw [full_textsOf extracts]
  by_cases empty : text = ""
  · rw [empty]
    exact List.nil_infix
  · exact Text.infix_intercalate (List.mem_filter.2 ⟨contributes, by simpa using empty⟩)

/-- The field that a qualifier of the full text looks in has the text of a field of the full
text. -/
theorem exists_of_selectsFullText (homed : registry.IsHomed)
    (steady : registry.IsSteadyFor view entityType record)
    (extracts : (registry.extractAll view entityType record streams).1 = .ok extracted)
    {qualifier : String} (selects : (registry.get entityType).SelectsFullText qualifier) :
    ∃ row source contributing, (registry.get entityType).resolve qualifier = some row ∧
      (registry.get entityType).fields.find? source = some contributing ∧
      contributing.inFullText = true ∧
      (textsOf extracted).fields.find? row.1 = (textsOf extracted).fields.find? source := by
  obtain ⟨name, field, selected, inFull | ⟨target, behind, isAlias, knownBehind, inFull⟩⟩ := selects
  · exact ⟨(name, field), name, field, selected, Definition.find?_of_resolve selected, inFull, rfl⟩
  · have isField : behind.aliasOf? = none := by
      cases found : behind.aliasOf? with
      | none => rfl
      | some other =>
          obtain ⟨home, source⟩ := Field.source_of_aliasOf? found
          have outside := (homed entityType target behind knownBehind home other source).2
          rw [inFull] at outside
          cases outside
    exact ⟨(name, field), target, behind, selected, knownBehind, inFull,
      alias_textsOf homed steady extracts (Definition.find?_of_resolve selected) isAlias
        knownBehind isField⟩

/-- The texts of one build: the full text joins the texts of the fields that contribute to it,
there is one text for each name, an alias has the text of the field behind it, and what matches
behind a qualifier of the full text matches without it. -/
theorem texts_agree (declared : registry.IsDeclared)
    (steady : registry.IsSteadyFor view entityType record)
    (built : (registry.build view entityType record streams).1 = .ok texts) :
    texts.full = " ".intercalate
        ((contributions (registry.get entityType) texts).filter fun text => !text.isEmpty) ∧
      texts.fields.keys = (registry.get entityType).names ∧
      (∀ name field target behind, (registry.get entityType).fields.find? name = some field →
        field.aliasOf? = some target →
        (registry.get entityType).fields.find? target = some behind → behind.aliasOf? = none →
        texts.fields.find? name = texts.fields.find? target) ∧
      ∀ (id : Id) (qualifier : String) (value : Literal),
        (registry.get entityType).SelectsFullText qualifier →
        (registry.get entityType).matchesTerm ⟨⟨entityType, id⟩, .ofTexts texts⟩
          (.qualified qualifier value) = true →
        (registry.get entityType).matchesTerm ⟨⟨entityType, id⟩, .ofTexts texts⟩
          (.plain value) = true := by
  have homed := isHomed_of_declared declared
  obtain ⟨extracted, extracts, rfl⟩ := build_inv built
  refine ⟨full_textsOf extracts, keys_textsOf extracts, ?_, ?_⟩
  · intro name field target behind known isAlias knownBehind isField
    exact alias_textsOf homed steady extracts known isAlias knownBehind isField
  · intro id qualifier value selects found
    obtain ⟨row, source, contributing, selected, knownSource, inFull, sameText⟩ :=
      exists_of_selectsFullText homed steady extracts selects
    obtain ⟨fragments, member⟩ := exists_extracted extracts knownSource
    have sourceText := (find?_textsOf_iff extracts source _).2 ⟨contributing, _, member, rfl⟩
    refine contains_full extracts knownSource inFull sourceText ?_
    simpa only [Definition.matchesTerm, selected, Entry.fieldText?, Content.ofTexts, sameText,
      sourceText] using found

/-! ## Users with two names for their name -/

/-- Users have a name, which queries can call by another name, too. -/
def calledUsers : Registry :=
  ((fresh true).defineField (.str "user") (.str "name") (some (.attributes ["name"])) true).2
    |>.defineQualifier (.str "user") (.str "called") (.str "name") |>.2

theorem rows_calledUsers : (calledUsers.get "user").fields.rows =
    [("name", ⟨.extractor (.attributes ["name"]), true⟩), ("called", ⟨.alias "user" "name", false⟩)] :=
  rfl

theorem isDeclared_calledUsers : calledUsers.IsDeclared :=
  ((IsDeclared.fresh true).defineField (.str "user") (.str "name") (some (.attributes ["name"]))
    true).defineQualifier (.str "user") (.str "called") (.str "name")

theorem isSteadyFor_calledUsers (text : String) :
    calledUsers.IsSteadyFor RecordTree.view "user" (userNamed text) := by
  intro row member value gives
  rw [rows_calledUsers] at member
  have solid : (Value.list [.str text]).IsSteady := Value.isSteady_of_solid rfl
  rcases List.mem_cons.1 member with rfl | member
  · cases gives
    exact solid
  · cases List.mem_singleton.1 member
    cases gives
    exact solid

def calledTexts (text : String) : SearchTexts :=
  textsOf [("name", ⟨.extractor (.attributes ["name"]), true⟩, [text]),
    ("called", ⟨.alias "user" "name", false⟩, [text])]

/-- A word behind the other name is found without it. -/
theorem texts_agree_lincoln :
    calledUsers.IsDeclared ∧
      calledUsers.IsSteadyFor RecordTree.view "user" (userNamed "Abraham  Lincoln") ∧
      (calledUsers.build RecordTree.view "user" (userNamed "Abraham  Lincoln") .none).1 =
        .ok (calledTexts "Abraham  Lincoln") ∧
      (calledTexts "Abraham  Lincoln").fields.find? "called" =
        (calledTexts "Abraham  Lincoln").fields.find? "name" ∧
      (calledUsers.get "user").matchesTerm
        ⟨⟨"user", .int 1⟩, .ofTexts (calledTexts "Abraham  Lincoln")⟩
        (.plain (.word "lincoln")) = true := by
  have steady := isSteadyFor_calledUsers "Abraham  Lincoln"
  have built : (calledUsers.build RecordTree.view "user" (userNamed "Abraham  Lincoln") .none).1 =
      .ok (calledTexts "Abraham  Lincoln") := rfl
  obtain ⟨-, -, sameText, found⟩ := texts_agree isDeclared_calledUsers steady built
  refine ⟨isDeclared_calledUsers, steady, built, sameText "called" _ "name" _ rfl rfl rfl rfl,
    found (.int 1) "called" (.word "lincoln")
      ⟨"called", _, rfl, Or.inr ⟨"name", _, rfl, rfl, rfl⟩⟩ ?_⟩
  decide +kernel

end Registry

end ShadowIndex
