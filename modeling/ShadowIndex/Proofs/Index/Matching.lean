import ShadowIndex.Proofs.Query.Respacing
import ShadowIndex.Proofs.Schema.Naming

/-!
Contract: what matches an entry that was just built, in terms of the fragments it was built from.

Owns:
- where a term looks in a built entry (`matchesTerm_plain_iff`, `matchesTerm_qualified_iff`);
- every quoted piece of the fragments is found (`quoted_pieces_found`);
- a word is found exactly where one token of one fragment contains it (`words_found_iff`);
- which blanks of a query make a difference to what it matches (`respaced_matches`).

Does not own: entries that are out of date, or the search over all entries.
-/

set_option autoImplicit false

namespace ShadowIndex

open Text (doubleQuote)

/-! ## Normal forms that are searched -/

namespace Text

theorem fold_joinSpaced (texts : List (List Char)) :
    fold (joinSpaced texts) = joinSpaced (texts.map fold) := by
  induction texts with
  | nil => rfl
  | cons text rest inductionHypothesis =>
      by_cases last : rest = []
      · subst last
        simp
      · have space : foldChar ' ' = [' '] :=
          foldChar_of_isSeparator (isSeparator_of_isBlank isBlank_space)
        rw [joinSpaced_cons text last, fold_append, fold_cons, space, inductionHypothesis,
          List.map_cons, joinSpaced_cons (fold text) (by simpa using last),
          List.singleton_append]

/-- A piece of joined fragments is contained, in normal form, in their normal form. -/
theorem contains_normalize_of_infix {piece : String} {fragments : List String}
    (stands : piece.toList <:+: joinSpaced (fragments.map String.toList)) :
    contains (normalize fragments) (normalize [piece]) = true := by
  apply contains_of_infix
  rw [toList_normalize, toList_normalize]
  exact normalizeChars_infix stands

/-- Whether one token of a fragment contains a word, whatever the case. -/
def HoldsWord (fragment word : String) : Prop :=
  ∃ token, IsToken fragment.toList token ∧ contains (String.ofList token) word = true

/-- A word never reaches over the end of a token: folded, it holds no space, and nothing else stands
between the tokens of a normal form. -/
theorem contains_normalize_iff {word : String} (nonempty : word.toList ≠ [])
    (solid : ∀ c ∈ word.toList, isBlank c = false) (fragments : List String) :
    contains (normalize fragments) word = true ↔
      ∃ fragment ∈ fragments, HoldsWord fragment word := by
  have noSpace : ' ' ∉ fold word.toList := by
    rw [mem_fold_iff (isSeparator_of_isBlank isBlank_space)]
    intro member
    exact absurd (solid ' ' member) (by decide)
  rw [contains_iff, toList_normalize, normalizeChars_eq, fold_joinSpaced,
    infix_joinSpaced_iff (fold_ne_nil nonempty) noSpace]
  simp only [HoldsWord, contains_iff, String.toList_ofList, List.mem_map, List.mem_flatMap,
    ← mem_words_iff]
  constructor
  · rintro ⟨_, ⟨token, ⟨_, ⟨fragment, member, rfl⟩, isWord⟩, rfl⟩, stands⟩
    exact ⟨fragment, member, token, isWord, stands⟩
  · rintro ⟨fragment, member, token, isWord, stands⟩
    exact ⟨fold token, ⟨token, ⟨fragment.toList, ⟨fragment, member, rfl⟩, isWord⟩, rfl⟩, stands⟩

end Text

namespace Registry

variable {ρ : Type} {registry : Registry} {view : RecordView ρ} {entityType : String}
  {record : ρ} {streams : Streams} {texts : SearchTexts}
  {extracted : List (String × Field × List String)}

/-! ## Where terms look -/

theorem matchesTerm_plain_iff (extracted : List (String × Field × List String))
    (definition : Definition) (owner : Ref) (value : Literal) :
    definition.matchesTerm ⟨owner, .ofTexts (textsOf extracted)⟩ (.plain value) = true ↔
      Text.contains (Text.normalize (fullFragments extracted)) value.text = true :=
  Iff.rfl

/-- A qualified term looks in the text of the one field that its qualifier selects. -/
theorem matchesTerm_qualified_iff
    (extracts : (registry.extractAll view entityType record streams).1 = .ok extracted)
    (owner : Ref) (qualifier : String) (value : Literal) :
    (registry.get entityType).matchesTerm ⟨owner, .ofTexts (textsOf extracted)⟩
        (.qualified qualifier value) = true ↔
      ∃ name field fragments, (registry.get entityType).resolve qualifier = some (name, field) ∧
        (name, field, fragments) ∈ extracted ∧
        Text.contains (Text.normalize fragments) value.text = true := by
  cases selected : (registry.get entityType).resolve qualifier with
  | none => simp [Definition.matchesTerm, selected]
  | some row =>
      obtain ⟨name, field⟩ := row
      have known := Definition.find?_of_resolve selected
      obtain ⟨fragments, member⟩ := exists_extracted extracts known
      have found : (textsOf extracted).fields.find? name = some (Text.normalize fragments) :=
        (find?_textsOf_iff extracts name _).2 ⟨field, fragments, member, rfl⟩
      have looks : (registry.get entityType).matchesTerm ⟨owner, .ofTexts (textsOf extracted)⟩
          (.qualified qualifier value) = Text.contains (Text.normalize fragments) value.text := by
        simp only [Definition.matchesTerm, selected, Entry.fieldText?, Content.ofTexts, found]
      rw [looks]
      constructor
      · intro contained
        exact ⟨name, field, fragments, rfl, member, contained⟩
      · rintro ⟨_, _, others, same, isExtracted, contained⟩
        cases same
        have again := (find?_textsOf_iff extracts name _).2 ⟨field, others, isExtracted, rfl⟩
        rw [found, Option.some.injEq] at again
        rw [again]
        exact contained

/-! ## A user with a name -/

def userNamed (text : String) : RecordTree :=
  .node ⟨⟨"user", .int 1⟩, .ofList [("name", .str text)]⟩ []

def namedTexts (text : String) : SearchTexts :=
  textsOf [("name", ⟨.extractor (.attributes ["name"]), true⟩, [text])]

theorem isReachable_usersBy_name : (usersBy "name").IsReachable :=
  (IsReachable.fresh true).of_declares
    (declares_usersBy (show IsProperName "name" by decide +kernel))

theorem extractAll_userNamed (text : String) :
    ((usersBy "name").extractAll RecordTree.view "user" (userNamed text) .none).1 =
      .ok [("name", ⟨.extractor (.attributes ["name"]), true⟩, [text])] :=
  rfl

theorem build_userNamed (text : String) :
    ((usersBy "name").build RecordTree.view "user" (userNamed text) .none).1 =
      .ok (namedTexts text) :=
  rfl

/-! ## Quoted pieces -/

/-- Every piece of what was indexed is found between quotes, wherever it is cut: every piece of the
joined fragments of the full text, and, behind the name of a field, every piece of the fragments of
that field. -/
theorem quoted_pieces_found (reachable : registry.IsReachable) (id : Id)
    (built : (registry.build view entityType record streams).1 = .ok texts) :
    ∃ extracted, (registry.extractAll view entityType record streams).1 = .ok extracted ∧
      (∀ piece : String, doubleQuote ∉ piece.toList →
        piece.toList <:+: Text.joinSpaced ((fullFragments extracted).map String.toList) →
        (registry.get entityType).accepts (Query.parse ("\"" ++ piece ++ "\""))
          ⟨⟨entityType, id⟩, .ofTexts texts⟩ = true) ∧
      ∀ name field, (registry.get entityType).fields.find? name = some field →
        name.toList.head? ≠ some doubleQuote →
          ∃ fragments, (name, field, fragments) ∈ extracted ∧
            ∀ piece : String, doubleQuote ∉ piece.toList →
              piece.toList <:+: Text.joinSpaced (fragments.map String.toList) →
              (registry.get entityType).accepts (Query.parse (name ++ ":\"" ++ piece ++ "\""))
                ⟨⟨entityType, id⟩, .ofTexts texts⟩ = true := by
  obtain ⟨extracted, extracts, rfl⟩ := build_inv built
  refine ⟨extracted, extracts, ?_, ?_⟩
  · intro piece clean stands
    rw [Query.parse_quoted clean]
    by_cases empty : Text.normalize [piece] = ""
    · simp [empty, Definition.accepts]
    · have found := (matchesTerm_plain_iff extracted (registry.get entityType) ⟨entityType, id⟩
        (.phrase (Text.normalize [piece]))).2 (Text.contains_normalize_of_infix stands)
      simp [empty, Definition.accepts, found]
  · intro name field known unquoted
    obtain ⟨fragments, member⟩ := exists_extracted extracts known
    refine ⟨fragments, member, fun piece clean stands => ?_⟩
    have proper := isProper_of_reachable reachable entityType name field known
    rw [Query.parse_fieldQuoted ((isFieldName_iff name).2 ⟨proper, unquoted⟩) clean]
    have found := (matchesTerm_qualified_iff extracts ⟨entityType, id⟩ name
      (.phrase (Text.normalize [piece]))).2 ⟨name, field, fragments,
        Definition.resolve_of_find? known, member, Text.contains_normalize_of_infix stands⟩
    simp [Definition.accepts, found]

/-- A piece with a tab in it, and one that a tab opens. -/
theorem quoted_pieces_found_lincoln :
    (usersBy "name").IsReachable ∧
      ((usersBy "name").build RecordTree.view "user" (userNamed "Abraham \t Lincoln") .none).1 =
        .ok (namedTexts "Abraham \t Lincoln") ∧
      ((usersBy "name").get "user").accepts (Query.parse ("\"" ++ "m \t L" ++ "\""))
        ⟨⟨"user", .int 1⟩, .ofTexts (namedTexts "Abraham \t Lincoln")⟩ = true ∧
      ((usersBy "name").get "user").accepts (Query.parse ("name" ++ ":\"" ++ "\t Linc" ++ "\""))
        ⟨⟨"user", .int 1⟩, .ofTexts (namedTexts "Abraham \t Lincoln")⟩ = true := by
  have built := build_userNamed "Abraham \t Lincoln"
  obtain ⟨extracted, extracts, found, fieldFound⟩ :=
    quoted_pieces_found isReachable_usersBy_name (.int 1) built
  rw [extractAll_userNamed] at extracts
  cases extracts
  obtain ⟨fragments, member, pieceFound⟩ := fieldFound "name" _ rfl (by decide)
  cases List.mem_singleton.1 member
  refine ⟨isReachable_usersBy_name, built, ?_, ?_⟩
  · exact found "m \t L" (by decide) ⟨"Abraha".toList, "incoln".toList, rfl⟩
  · exact pieceFound "\t Linc" (by decide) ⟨"Abraham ".toList, "oln".toList, rfl⟩

/-! ## Words -/

/-- A word is found exactly where one token of one fragment contains it: of a field of the full
text, or of the field that a qualifier selects. -/
theorem words_found_iff (id : Id)
    (built : (registry.build view entityType record streams).1 = .ok texts) :
    ∃ extracted, (registry.extractAll view entityType record streams).1 = .ok extracted ∧
      ∀ word : String, word ≠ "" → (∀ c ∈ word.toList, Text.isBlank c = false) →
        ((registry.get entityType).matchesTerm ⟨⟨entityType, id⟩, .ofTexts texts⟩
            (.plain (.word word)) = true ↔
          ∃ name field fragments, (name, field, fragments) ∈ extracted ∧
            field.inFullText = true ∧ ∃ fragment ∈ fragments, Text.HoldsWord fragment word) ∧
        ∀ qualifier,
          (registry.get entityType).matchesTerm ⟨⟨entityType, id⟩, .ofTexts texts⟩
              (.qualified qualifier (.word word)) = true ↔
            ∃ name field fragments,
              (registry.get entityType).resolve qualifier = some (name, field) ∧
              (name, field, fragments) ∈ extracted ∧
              ∃ fragment ∈ fragments, Text.HoldsWord fragment word := by
  obtain ⟨extracted, extracts, rfl⟩ := build_inv built
  refine ⟨extracted, extracts, fun word nonempty solid => ⟨?_, fun qualifier => ?_⟩⟩
  · rw [matchesTerm_plain_iff, Literal.text,
      Text.contains_normalize_iff (by simpa using nonempty) solid]
    simp only [mem_fullFragments_iff]
    grind
  · rw [matchesTerm_qualified_iff extracts]
    simp only [Literal.text, Text.contains_normalize_iff (by simpa using nonempty) solid]

/-- A word within a token, in another case, with the name of the field in front of it and
without. -/
theorem words_found_iff_lincoln :
    ((usersBy "name").build RecordTree.view "user" (userNamed "Abraham \t Lincoln") .none).1 =
        .ok (namedTexts "Abraham \t Lincoln") ∧
      ((usersBy "name").get "user").matchesTerm
        ⟨⟨"user", .int 1⟩, .ofTexts (namedTexts "Abraham \t Lincoln")⟩
        (.plain (.word "BRAHAM")) = true ∧
      ((usersBy "name").get "user").matchesTerm
        ⟨⟨"user", .int 1⟩, .ofTexts (namedTexts "Abraham \t Lincoln")⟩
        (.qualified "name" (.word "BRAHAM")) = true := by
  have built := build_userNamed "Abraham \t Lincoln"
  obtain ⟨extracted, extracts, found⟩ := words_found_iff (.int 1) built
  rw [extractAll_userNamed] at extracts
  cases extracts
  have bare : Term.IsBare "BRAHAM".toList := by decide +kernel
  obtain ⟨plainFound, qualifiedFound⟩ := found "BRAHAM" (by decide) bare.solid
  have isToken : Text.IsToken "Abraham \t Lincoln".toList "Abraham".toList :=
    (Text.mem_words_iff _ _).1 (by decide +kernel)
  have holds : Text.HoldsWord "Abraham \t Lincoln" "BRAHAM" :=
    ⟨_, isToken, by decide +kernel⟩
  refine ⟨built, ?_, ?_⟩
  · exact plainFound.2 ⟨"name", _, _, List.mem_singleton_self _, rfl, _,
      List.mem_singleton_self _, holds⟩
  · exact (qualifiedFound "name").2 ⟨"name", _, _, rfl, List.mem_singleton_self _, _,
      List.mem_singleton_self _, holds⟩

/-! ## Blanks of a query -/

theorem isSpaced_of_build
    (built : (registry.build view entityType record streams).1 = .ok texts) :
    Text.IsSpaced texts.full.toList := by
  obtain ⟨extracted, -, rfl⟩ := build_inv built
  rw [textsOf, Text.toList_normalize]
  exact (Text.isNormal_normalizeChars _).spaced

/-- The literal of an unclosed quote is looked for as it was typed, in a text in which single
spaces are the only blanks. -/
theorem isSingleSpaced_of_accepts {definition : Definition} {owner : Ref} {text : String}
    (spaced : Text.IsSpaced texts.full.toList)
    (accepted : definition.accepts (Query.parse text) ⟨owner, .ofTexts texts⟩ = true) :
    Query.IsSingleSpaced text := by
  intro literal member
  have isTerm : .plain (.word literal) ∈ (Query.parse text).terms := by
    rw [Query.parse, mem_distinct_iff, Query.tokenize, List.mem_filterMap]
    exact ⟨.unclosed literal, member, rfl⟩
  have found := List.all_eq_true.1 accepted _ isTerm
  exact Text.isSpaced_of_contains spaced found

/-- Blanks of another number or kind make no difference to a query in which every quote is closed.
Behind a quote that is never closed, they make none as long as both texts have single spaces only,
or both have other blanks; with other blanks nothing matches. -/
theorem respaced_matches {left right : String}
    (respaced : Text.Respaced left.toList right.toList) (id : Id)
    (built : (registry.build view entityType record streams).1 = .ok texts) :
    (Query.IsClosedText left → Query.parse right = Query.parse left) ∧
      ((Query.IsSingleSpaced left ↔ Query.IsSingleSpaced right) →
        (registry.get entityType).accepts (Query.parse right) ⟨⟨entityType, id⟩, .ofTexts texts⟩ =
          (registry.get entityType).accepts (Query.parse left)
            ⟨⟨entityType, id⟩, .ofTexts texts⟩) ∧
      (¬ Query.IsSingleSpaced left →
        (registry.get entityType).accepts (Query.parse left) ⟨⟨entityType, id⟩, .ofTexts texts⟩ =
          false) := by
  have spaced := isSpaced_of_build built
  have refused {text : String} (notSpaced : ¬ Query.IsSingleSpaced text) :
      (registry.get entityType).accepts (Query.parse text) ⟨⟨entityType, id⟩, .ofTexts texts⟩ =
        false := by
    refine Bool.eq_false_iff.2 fun accepted => notSpaced ?_
    exact isSingleSpaced_of_accepts spaced accepted
  refine ⟨?_, ?_, refused⟩
  · intro closed
    exact Query.parse_eq_of_respaced respaced closed.isSingleSpaced
      (Query.isClosedText_of_respaced respaced closed).isSingleSpaced
  · intro alike
    by_cases leftSpaced : Query.IsSingleSpaced left
    · rw [Query.parse_eq_of_respaced respaced leftSpaced (alike.1 leftSpaced)]
    · have rightOther : ¬ Query.IsSingleSpaced right := fun rightSpaced =>
        leftSpaced (alike.2 rightSpaced)
      rw [refused leftSpaced, refused rightOther]

/-- A quoted text and a word, with other blanks in and behind the quotes. -/
theorem respaced_matches_lincoln :
    Text.Respaced "\"m L\" linc".toList "\"m \t L\"\n linc".toList ∧
      ((usersBy "name").build RecordTree.view "user" (userNamed "Abraham \t Lincoln") .none).1 =
        .ok (namedTexts "Abraham \t Lincoln") ∧
      Query.IsClosedText "\"m L\" linc" ∧
      Query.parse "\"m \t L\"\n linc" = Query.parse "\"m L\" linc" := by
  have respaced : Text.Respaced "\"m L\" linc".toList "\"m \t L\"\n linc".toList := by
    decide +kernel
  have built := build_userNamed "Abraham \t Lincoln"
  have tokens : Token.scan "\"m L\" linc".toList =
      [.term (.plain (.phrase "m L")), .term (.plain (.word "linc"))] := by
    decide +kernel
  have closed : Query.IsClosedText "\"m L\" linc" := by
    intro literal member
    rw [tokens] at member
    simp at member
  exact ⟨respaced, built, closed, (respaced_matches respaced (.int 1) built).1 closed⟩

/-- A second space behind an unclosed quote keeps a query from matching what it matches without. -/
theorem unclosed_quote_not_respaced :
    Text.Respaced "\"a b".toList "\"a  b".toList ∧
      ((usersBy "name").build RecordTree.view "user" (userNamed "say \"a b") .none).1 =
        .ok (namedTexts "say \"a b") ∧
      ((usersBy "name").get "user").accepts (Query.parse "\"a b")
        ⟨⟨"user", .int 1⟩, .ofTexts (namedTexts "say \"a b")⟩ = true ∧
      ((usersBy "name").get "user").accepts (Query.parse "\"a  b")
        ⟨⟨"user", .int 1⟩, .ofTexts (namedTexts "say \"a b")⟩ = false := by
  refine ⟨by decide +kernel, build_userNamed _, ?_, ?_⟩ <;> decide +kernel

end Registry

end ShadowIndex
