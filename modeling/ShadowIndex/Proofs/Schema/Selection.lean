import ShadowIndex.Proofs.Schema.Extraction

/-!
Contract: the field that a qualifier selects where case does not matter.

Owns:
- `Definition.IsApart`, names that differ in more than case; then qualifiers that differ in case only
  select the same field (`resolve_eq_of_isApart`);
- `Definition.choose`, the name that is chosen among names in order of declaration;
- `Definition.declareAll`, declarations one after the other: which name is chosen after them, and
  the field that it has (`choose_declareAll`, `find?_declareAll`).

Does not own: which declarations are accepted, or what a query asks of the field.
-/

set_option autoImplicit false

namespace ShadowIndex.Definition

variable {definition : Definition} {qualifier : String}

/-! ## The chosen name -/

/-- The name that a qualifier chooses among names: the one that it is, or else the first that
differs from it in case only. -/
def choose (names : List String) (qualifier : String) : Option String :=
  if qualifier ∈ names then some qualifier
  else names.find? fun name => decide (Text.foldCase name = Text.foldCase qualifier)

theorem sameFold_of_choose {names : List String} {name : String}
    (chosen : choose names qualifier = some name) :
    name ∈ names ∧ Text.foldCase name = Text.foldCase qualifier := by
  unfold choose at chosen
  split at chosen
  · rename_i listed
    cases chosen
    exact ⟨listed, rfl⟩
  · exact ⟨List.mem_of_find?_eq_some chosen, by simpa using List.find?_some chosen⟩

theorem exists_choose {names : List String} {name : String} (listed : name ∈ names)
    (sameFold : Text.foldCase name = Text.foldCase qualifier) :
    ∃ chosen, choose names qualifier = some chosen := by
  unfold choose
  split
  · exact ⟨qualifier, rfl⟩
  · apply Option.isSome_iff_exists.1
    rw [List.find?_isSome]
    exact ⟨name, listed, by simpa using sameFold⟩

/-- A name that is listed again makes no difference. -/
theorem choose_insert {names rest : List String} {name : String} (listed : name ∈ names) :
    choose (names ++ name :: rest) qualifier = choose (names ++ rest) qualifier := by
  have sameMembers : qualifier ∈ names ++ name :: rest ↔ qualifier ∈ names ++ rest := by
    simp only [List.mem_append, List.mem_cons]
    constructor
    · rintro (inNames | rfl | inRest)
      · exact Or.inl inNames
      · exact Or.inl listed
      · exact Or.inr inRest
    · rintro (inNames | inRest)
      · exact Or.inl inNames
      · exact Or.inr (Or.inr inRest)
  simp only [choose, sameMembers, List.find?_append, List.find?_cons]
  by_cases sameFold : Text.foldCase name = Text.foldCase qualifier
  · have found : (names.find? fun other =>
        decide (Text.foldCase other = Text.foldCase qualifier)).isSome = true := by
      rw [List.find?_isSome]
      exact ⟨name, listed, by simpa using sameFold⟩
    obtain ⟨first, isFirst⟩ := Option.isSome_iff_exists.1 found
    rw [isFirst]
    rfl
  · simp only [sameFold, decide_false]

/-! ## Selection -/

/-- Where case does not matter, the field of the chosen name is selected. -/
theorem resolve_of_insensitive (insensitive : definition.caseSensitive = false)
    (qualifier : String) :
    definition.resolve qualifier = (choose definition.names qualifier).bind fun name =>
      (definition.fields.find? name).map fun field => (name, field) := by
  unfold resolve choose
  cases known : definition.fields.find? qualifier with
  | some field =>
      have listed : qualifier ∈ definition.names :=
        List.mem_map_of_mem ((Table.find?_eq_some_iff _ _ _).1 known)
      simp [listed, known]
  | none =>
      have unlisted : qualifier ∉ definition.names := (Table.find?_eq_none_iff _ _).1 known
      rw [if_neg unlisted]
      simp only [insensitive, Bool.false_eq_true, if_false, names, Table.keys, List.find?_map,
        Function.comp_def]
      cases found : definition.fields.rows.find? fun row =>
          decide (Text.foldCase row.1 = Text.foldCase qualifier) with
      | none => rfl
      | some row =>
          have held := (Table.find?_eq_some_iff definition.fields row.1 row.2).2
            (List.mem_of_find?_eq_some found)
          simp [held]

theorem name_of_resolve (insensitive : definition.caseSensitive = false) (qualifier : String) :
    (definition.resolve qualifier).map Prod.fst = choose definition.names qualifier := by
  rw [resolve_of_insensitive insensitive]
  cases chosen : choose definition.names qualifier with
  | none => rfl
  | some name =>
      obtain ⟨⟨_, field⟩, member, rfl⟩ := List.mem_map.1 (sameFold_of_choose chosen).1
      simp [(Table.find?_eq_some_iff _ _ _).2 member]

/-- Names that differ in more than the case of their letters. -/
def IsApart (definition : Definition) : Prop :=
  ∀ name ∈ definition.names, ∀ other ∈ definition.names,
    Text.foldCase name = Text.foldCase other → name = other

instance (definition : Definition) : Decidable definition.IsApart :=
  inferInstanceAs (Decidable (∀ name ∈ definition.names, ∀ other ∈ definition.names,
    Text.foldCase name = Text.foldCase other → name = other))

/-- Among names that are apart, one name at most is chosen by all spellings of a qualifier. -/
theorem choose_eq_some_iff (apart : definition.IsApart) (qualifier name : String) :
    choose definition.names qualifier = some name ↔
      name ∈ definition.names ∧ Text.foldCase name = Text.foldCase qualifier := by
  constructor
  · exact sameFold_of_choose
  · intro ⟨listed, sameFold⟩
    obtain ⟨chosen, isChosen⟩ := exists_choose listed sameFold
    obtain ⟨chosenListed, chosenFold⟩ := sameFold_of_choose isChosen
    rw [isChosen, apart chosen chosenListed name listed (chosenFold.trans sameFold.symm)]

/-- Qualifiers that differ in case only select the same field. -/
theorem resolve_eq_of_isApart (insensitive : definition.caseSensitive = false)
    (apart : definition.IsApart) {left right : String}
    (sameFold : Text.foldCase left = Text.foldCase right) :
    definition.resolve left = definition.resolve right := by
  have sameName : choose definition.names left = choose definition.names right := by
    apply Option.ext
    intro name
    rw [choose_eq_some_iff apart, choose_eq_some_iff apart, sameFold]
  rw [resolve_of_insensitive insensitive, resolve_of_insensitive insensitive, sameName]

/-! ## Declarations one after the other -/

def declareAll (definition : Definition) (rows : List (String × Field)) : Definition :=
  rows.foldl (fun declared row => declared.declare row.1 row.2) definition

/-- Where case matters does not depend on what is declared. -/
theorem caseSensitive_declareAll (definition : Definition) (rows : List (String × Field)) :
    (definition.declareAll rows).caseSensitive = definition.caseSensitive := by
  induction rows generalizing definition with
  | nil => rfl
  | cons row rest inductionHypothesis => exact inductionHypothesis (definition.declare row.1 row.2)

/-- One declaration more chooses as if its name were listed behind the others. -/
theorem choose_declare (definition : Definition) (name : String) (field : Field)
    (rest : List String) (qualifier : String) :
    choose ((definition.declare name field).names ++ rest) qualifier =
      choose (definition.names ++ name :: rest) qualifier := by
  have listing : (definition.declare name field).names =
      if name ∈ definition.names then definition.names else definition.names ++ [name] :=
    Table.keys_insert _ _ _
  rw [listing]
  split
  · rename_i listed
    rw [choose_insert listed]
  · rw [List.append_assoc, List.singleton_append]

/-- The order in which names were declared first is what counts. -/
theorem choose_declareAll (definition : Definition) (rows : List (String × Field))
    (qualifier : String) :
    choose (definition.declareAll rows).names qualifier =
      choose (definition.names ++ rows.map Prod.fst) qualifier := by
  induction rows generalizing definition with
  | nil =>
      rw [List.map_nil, List.append_nil]
      rfl
  | cons row rest inductionHypothesis =>
      have later := inductionHypothesis (definition.declare row.1 row.2)
      rw [choose_declare] at later
      exact later

/-- The field of a name is the one that was declared last. -/
theorem find?_declareAll (definition : Definition) (rows : List (String × Field)) (name : String) :
    (definition.declareAll rows).fields.find? name =
      ((rows.reverse.find? fun row => decide (row.1 = name)).map Prod.snd).or
        (definition.fields.find? name) := by
  induction rows generalizing definition with
  | nil => rfl
  | cons row rest inductionHypothesis =>
      have later := inductionHypothesis (definition.declare row.1 row.2)
      have listing : (definition.declareAll (row :: rest)).fields.find? name = _ := later
      rw [listing, List.reverse_cons, List.find?_append]
      cases rest.reverse.find? fun other => decide (other.1 = name) with
      | some last => rfl
      | none =>
          simp only [declare, Table.find?_insert, Option.map_none, Option.none_or,
            List.find?_cons, List.find?_nil]
          by_cases same : name = row.1
          · simp [same]
          · have different : ¬ row.1 = name := fun equal => same equal.symm
            simp [same, different]

/-- Names that were declared before choose the same, whatever is declared for them anew. -/
theorem choose_redeclared {rows : List (String × Field)}
    (redeclared : ∀ row ∈ rows, row.1 ∈ definition.names) (qualifier : String) :
    choose (definition.names ++ rows.map Prod.fst) qualifier =
      choose definition.names qualifier := by
  induction rows with
  | nil => rw [List.map_nil, List.append_nil]
  | cons row rest inductionHypothesis =>
      rw [List.map_cons, choose_insert (redeclared row List.mem_cons_self)]
      exact inductionHypothesis fun other member => redeclared other (List.mem_cons_of_mem row member)

end ShadowIndex.Definition
