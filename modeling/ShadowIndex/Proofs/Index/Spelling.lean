import ShadowIndex.Proofs.Index.Evaluation
import ShadowIndex.Proofs.Query.Concatenation
import ShadowIndex.Proofs.Schema.Selection

/-!
Contract: searches where the case of a qualifier does not matter.

Owns:
- `Query.Recased`, texts whose terms differ in the case of qualifiers only, also where that makes
  terms equal or different;
- such queries match the same entries, are refused alike and find the same
  (`Definition.accepts_of_recased`, `Index.search_of_recased`);
- the whole rule, with the choice among names that differ in case only
  (`Definition.spelling_is_ignored`).

Does not own: the folding of texts.
-/

set_option autoImplicit false

namespace ShadowIndex

/-! ## Terms in another case -/

/-- Terms that are equal but for the case of a qualifier. -/
inductive Term.Recased : Term → Term → Prop where
  | plain (value : Literal) : Recased (.plain value) (.plain value)
  | qualified {left right : String} (value : Literal)
      (sameFold : Text.foldCase left = Text.foldCase right) :
      Recased (.qualified left value) (.qualified right value)

/-- A test that cannot tell terms in another case apart holds of all terms of one list exactly if it
does of all terms of the other. -/
theorem Term.Recased.all_eq {test : Term → Bool}
    (blind : ∀ term other, term.Recased other → test term = test other) {terms others : List Term}
    (recased : List.Forall₂ Term.Recased terms others) : terms.all test = others.all test := by
  induction recased with
  | nil => rfl
  | cons same _ inductionHypothesis =>
      rw [List.all_cons, List.all_cons, blind _ _ same, inductionHypothesis]

namespace Query

/-- The terms of two texts, one by one and before repetitions are left out, are equal but for the
case of qualifiers. -/
def Recased (left right : String) : Prop :=
  List.Forall₂ Term.Recased (tokenize left) (tokenize right)

/-- Repetitions make no difference to what holds of all terms. -/
theorem all_parse (test : Term → Bool) (text : String) :
    (parse text).terms.all test = (tokenize text).all test := by
  rw [Bool.eq_iff_iff]
  simp only [parse, List.all_eq_true, mem_distinct_iff]

theorem isBlank_parse (text : String) : (parse text).isBlank = (tokenize text).isEmpty := by
  rw [Bool.eq_iff_iff]
  simp only [isBlank, parse, List.isEmpty_iff, List.eq_nil_iff_forall_not_mem, mem_distinct_iff]

theorem all_qualifiers (query : Query) (test : String → Bool) :
    query.qualifiers.all test = query.terms.all fun term => term.field?.all test := by
  rw [Bool.eq_iff_iff]
  simp only [List.all_eq_true, mem_qualifiers_iff, Option.all_eq_true]
  exact ⟨fun all term member name isName => all name ⟨term, member, isName⟩,
    fun all name ⟨term, member, isName⟩ => all term member name isName⟩

section Recased

variable {left right : String} (recased : Recased left right)
include recased

theorem isBlank_of_recased : (parse left).isBlank = (parse right).isBlank := by
  have sameLength := recased.length_eq
  rw [isBlank_parse, isBlank_parse, Bool.eq_iff_iff, List.isEmpty_iff, List.isEmpty_iff,
    ← List.length_eq_zero_iff, ← List.length_eq_zero_iff, sameLength]

theorem all_of_recased {test : Term → Bool}
    (blind : ∀ term other, term.Recased other → test term = test other) :
    (parse left).terms.all test = (parse right).terms.all test := by
  rw [all_parse, all_parse]
  exact Term.Recased.all_eq blind recased

end Recased

end Query

/-! ## Matching -/

namespace Definition

variable {definition : Definition} {left right : String}
variable (insensitive : definition.caseSensitive = false) (apart : definition.IsApart)
include insensitive apart

/-- An entry is read under the name of the field that is selected, which both spellings share. -/
theorem matchesTerm_of_recased (entry : Entry) {term other : Term} (recased : term.Recased other) :
    definition.matchesTerm entry term = definition.matchesTerm entry other := by
  cases recased with
  | plain value => rfl
  | qualified value sameFold =>
      simp only [matchesTerm]
      rw [resolve_eq_of_isApart insensitive apart sameFold]

theorem accepts_of_recased (recased : Query.Recased left right) :
    definition.accepts (Query.parse left) = definition.accepts (Query.parse right) := by
  funext entry
  apply Query.all_of_recased recased
  intro term other
  exact matchesTerm_of_recased insensitive apart entry

theorem knows_of_recased (recased : Query.Recased left right) :
    (Query.parse left).qualifiers.all definition.knows =
      (Query.parse right).qualifiers.all definition.knows := by
  rw [Query.all_qualifiers, Query.all_qualifiers]
  apply Query.all_of_recased recased
  intro term other same
  cases same with
  | plain value => rfl
  | qualified value sameFold =>
      simp only [Term.field?, Option.all_some, knows]
      rw [resolve_eq_of_isApart insensitive apart sameFold]

theorem asks_of_recased (recased : Query.Recased left right) :
    definition.asks (Query.parse left) = definition.asks (Query.parse right) := by
  rw [asks, asks, Query.isBlank_of_recased recased, knows_of_recased insensitive apart recased]

end Definition

/-! ## Searching -/

/-- Searches for texts in another case find the same, or fail in the same way. -/
theorem Index.search_of_recased {catalog : Catalog} {entityType left right : String}
    (insensitive : (catalog.registry.get entityType).caseSensitive = false)
    (apart : (catalog.registry.get entityType).IsApart) (recased : Query.Recased left right)
    (host : Host) (scope : Scope) (index : Index) :
    (search catalog host entityType (some left) scope index).1 =
      (search catalog host entityType (some right) scope index).1 := by
  cases listed : host.candidates entityType scope with
  | error failure => rw [search_of_unlisted listed, search_of_unlisted listed]
  | ok candidates =>
      rw [search_of_listed listed, search_of_listed listed]
      simp only [Option.getD_some, Definition.asks_of_recased insensitive apart recased,
        Definition.accepts_of_recased insensitive apart recased,
        Query.isBlank_of_recased recased]

/-! ## The whole rule -/

namespace Definition

/-- Where case does not matter: queries that differ in the case of qualifiers only match the same
entries, are refused alike for qualifiers that are not known, and find the same in every state, if
no two names of the definition differ in case only. And among names that do, one that is written
exactly selects its own field, and any other spelling the one that was declared first, each with
the field that was declared last for it; fields that are declared anew change no choice. -/
theorem spelling_is_ignored {definition : Definition}
    (insensitive : definition.caseSensitive = false) :
    (definition.IsApart → ∀ left right, Query.Recased left right →
      (∀ entry, definition.accepts (Query.parse left) entry =
        definition.accepts (Query.parse right) entry) ∧
      (Query.parse left).qualifiers.all definition.knows =
        (Query.parse right).qualifiers.all definition.knows ∧
      ∀ (catalog : Catalog) (host : Host) (entityType : String) (scope : Scope) (index : Index),
        catalog.registry.get entityType = definition →
        (Index.search catalog host entityType (some left) scope index).1 =
          (Index.search catalog host entityType (some right) scope index).1) ∧
    ∀ (rows : List (String × Field)) (qualifier : String),
      let declared := definition.declareAll rows
      let history := definition.names ++ rows.map Prod.fst
      (qualifier ∈ history → (declared.resolve qualifier).map Prod.fst = some qualifier) ∧
      (qualifier ∉ history → (declared.resolve qualifier).map Prod.fst =
        history.find? fun name => decide (Text.foldCase name = Text.foldCase qualifier)) ∧
      (∀ name field, declared.resolve qualifier = some (name, field) →
        ((rows.reverse.find? fun row => decide (row.1 = name)).map Prod.snd).or
          (definition.fields.find? name) = some field) ∧
      ((∀ row ∈ rows, row.1 ∈ definition.names) → (declared.resolve qualifier).map Prod.fst =
        (definition.resolve qualifier).map Prod.fst) := by
  refine ⟨?_, ?_⟩
  · intro apart left right recased
    refine ⟨fun entry => ?_, knows_of_recased insensitive apart recased, ?_⟩
    · rw [accepts_of_recased insensitive apart recased]
    · intro catalog host entityType scope index isDefinition
      subst isDefinition
      exact Index.search_of_recased insensitive apart recased host scope index
  · intro rows qualifier declared history
    have stillInsensitive : declared.caseSensitive = false :=
      (caseSensitive_declareAll definition rows).trans insensitive
    have chosen : (declared.resolve qualifier).map Prod.fst = choose history qualifier :=
      (name_of_resolve stillInsensitive qualifier).trans
        (choose_declareAll definition rows qualifier)
    refine ⟨fun listed => ?_, fun unlisted => ?_, ?_, ?_⟩
    · rw [chosen, choose, if_pos listed]
    · rw [chosen, choose, if_neg unlisted]
    · intro name field selected
      rw [← find?_declareAll]
      exact find?_of_resolve selected
    · intro redeclared
      rw [chosen, name_of_resolve insensitive]
      exact choose_redeclared redeclared qualifier

/-! ## Streets -/

def streetField : Field := ⟨.extractor (.attributes ["street"]), true⟩

/-- Members have a street, under a name with a letter that is folded to two. -/
def streets : Definition := declareAll ⟨false, .empty⟩ [("straße", streetField)]

/-- Two spellings of one qualifier, and one of them twice: both queries ask for the same. A second
name that differs in case only is chosen where it is written, and the first one elsewhere, also
after it is declared anew. -/
theorem spelling_is_ignored_streets :
    streets.caseSensitive = false ∧ streets.IsApart ∧
      Query.Recased "STRASSE:linden straße:linden" "Straße:linden Straße:linden" ∧
      (Query.parse "STRASSE:linden straße:linden").terms.length = 2 ∧
      (Query.parse "Straße:linden Straße:linden").terms.length = 1 ∧
      (∀ entry, streets.accepts (Query.parse "STRASSE:linden straße:linden") entry =
        streets.accepts (Query.parse "Straße:linden Straße:linden") entry) ∧
      ((streets.declareAll [("STRASSE", streetField), ("straße", streetField)]).resolve
        "Strasse").map Prod.fst = some "straße" := by
  have insensitive : streets.caseSensitive = false := rfl
  have apart : streets.IsApart := by decide
  have leftTerms : Query.tokenize "STRASSE:linden straße:linden" =
      [.qualified "STRASSE" (.word "linden"), .qualified "straße" (.word "linden")] := by
    decide +kernel
  have rightTerms : Query.tokenize "Straße:linden Straße:linden" =
      [.qualified "Straße" (.word "linden"), .qualified "Straße" (.word "linden")] := by
    decide +kernel
  have recased : Query.Recased "STRASSE:linden straße:linden" "Straße:linden Straße:linden" := by
    rw [Query.Recased, leftTerms, rightTerms]
    exact .cons (.qualified _ (by decide +kernel)) (.cons (.qualified _ (by decide +kernel)) .nil)
  obtain ⟨matching, choosing⟩ := spelling_is_ignored insensitive
  have chosen := (choosing [("STRASSE", streetField), ("straße", streetField)] "Strasse").2.1
    (by decide)
  refine ⟨insensitive, apart, recased, ?_, ?_, (matching apart _ _ recased).1, ?_⟩
  · rw [Query.parse, leftTerms]
    decide
  · rw [Query.parse, rightTerms]
    decide
  · rw [chosen]
    decide +kernel

end Definition

end ShadowIndex
