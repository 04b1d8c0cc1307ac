import ShadowIndex.Proofs.Schema.Declared
import ShadowIndex.Proofs.Schema.Steady

/-!
Contract: what aliases leave of the full text of a type.

Owns:
- `Registry.IsPlain`: fields of the full text are no aliases, in every reachable registry;
- a declaration of an alias, accepted or refused, leaves every full text as it was
  (`Registry.buildFullText_defineQualifier`);
- a merge keeps each name in its position and puts there what the other type has under it
  (`Registry.getElem?_merge`);
- `Registry.KeepsFullText`: a merge keeps the fields of the full text exactly if no alias of the other
  type has the name of one of them (`Registry.full_text_spared_iff`).

Does not own: what aliases read.
-/

set_option autoImplicit false

namespace ShadowIndex

/-! ## Fields of the full text -/

/-- A change of rows that keeps the selected ones, and selects no other, keeps the selection. -/
theorem Table.filter_map_eq {κ : Type} {α : Type} {rows : List (κ × α)} {keep : κ × α → Bool}
    {change : κ × α → κ × α}
    (spares : ∀ row ∈ rows, change row = row ∨ keep row = false ∧ keep (change row) = false) :
    (rows.map change).filter keep = rows.filter keep := by
  induction rows with
  | nil => rfl
  | cons row rest inductionHypothesis =>
      have others := inductionHypothesis fun other member => spares other (by simp [member])
      rcases spares row (by simp) with same | ⟨before, after⟩
      · simp only [List.map_cons, same, List.filter_cons, others]
      · simp [before, after, others]

/-- A field outside the full text, in place of none that is in it, changes nothing of the full
text. -/
theorem Definition.fullTextFields_declare {definition : Definition} {name : String} {field : Field}
    (outside : field.inFullText = false)
    (free : ∀ present, definition.fields.find? name = some present → present.inFullText = false) :
    (definition.declare name field).fullTextFields = definition.fullTextFields := by
  simp only [fullTextFields, declare, Table.insert]
  split
  · simp [Table.append, outside]
  · refine Table.filter_map_eq fun row member => ?_
    by_cases same : row.1 = name
    · subst same
      have known := (Table.find?_eq_some_iff _ _ _).2 member
      exact Or.inr ⟨free row.2 known, by simp [outside]⟩
    · exact Or.inl (by simp [same])

namespace Registry

variable {ρ : Type} {registry after : Registry} {base other entityType name : String}
  {field : Field}

/-- Whether the fields of the full text are no aliases. -/
def IsPlain (registry : Registry) : Prop :=
  ∀ entityType name field, (registry.get entityType).fields.find? name = some field →
    field.inFullText = true → field.aliasOf? = none

theorem isPlain_of_reachable (reachable : registry.IsReachable) : registry.IsPlain := by
  refine every_of_reachable reachable (fun checked _ => ?_) (fun checked inFull => ?_)
  · obtain ⟨-, rule, -, rfl⟩ := checkField_inv checked
    rfl
  · obtain ⟨-, ⟨behind, -, rfl⟩, -⟩ := checkAlias_inv checked
    cases inFull

/-- The full text depends on its own fields alone. -/
theorem buildFullText_congr (plain : registry.IsPlain)
    (sameFields : (after.get entityType).fullTextFields =
      (registry.get entityType).fullTextFields) (view : RecordView ρ) (record : ρ) :
    after.buildFullText view entityType record =
      registry.buildFullText view entityType record := by
  have sameSteps : ∀ row ∈ (registry.get entityType).fullTextFields,
      after.extractNamed view record row = registry.extractNamed view record row := by
    intro row member
    obtain ⟨isRow, inFull⟩ := List.mem_filter.1 member
    have known := (Table.find?_eq_some_iff _ row.1 row.2).2 isRow
    obtain ⟨rule, source⟩ := Field.source_of_not_aliasOf? (plain _ _ _ known inFull)
    simp only [extractNamed, extract, extractValue, source]
  simp only [buildFullText, sameFields, Action.each_congr sameSteps]

/-! ## Declarations of aliases -/

/-- A declaration of an alias, accepted or refused, leaves the full text of every record as it
was. -/
theorem buildFullText_defineQualifier (plain : registry.IsPlain) (given givenName target : Value)
    (view : RecordView ρ) (entityType : String) (record : ρ) :
    (registry.defineQualifier given givenName target).2.buildFullText view entityType record =
      registry.buildFullText view entityType record := by
  refine buildFullText_congr plain ?_ view record
  rcases declareChecked_inv (Prod.eta (registry.defineQualifier given givenName target)).symm with
    ⟨-, same⟩ | ⟨declaredType, name, field, -, -, -, accepted, declared⟩
  · rw [same]
  · obtain ⟨-, ⟨behind, -, rfl⟩, guarded⟩ := checkAlias_inv accepted
    rw [declared]
    split
    · rename_i sameType
      subst sameType
      refine Definition.fullTextFields_declare rfl fun present known => ?_
      rw [get_withType] at guarded
      cases inFull : present.inFullText with
      | false => rfl
      | true =>
          have outside := guarded present known (plain _ _ _ known inFull)
          rw [outside] at inFull
          cases inFull
    · rfl

/-! ## Merges -/

theorem contains_of_find? (known : (registry.get base).fields.find? name = some field) :
    registry.definitions.contains base = true := by
  rw [Table.contains_eq_isSome]
  unfold get at known
  cases found : registry.definitions.find? base with
  | none =>
      rw [found] at known
      cases known
  | some definition => rfl

/-- A merge keeps each name in its position, and puts there what the other type has under it, if
it has anything. -/
theorem getElem?_merge {position : Nat}
    (stands : (registry.get base).fields.rows[position]? = some (name, field)) :
    ((registry.merge base other).get base).fields.rows[position]? =
      some (name, ((registry.get other).fields.find? name).getD field) := by
  have known := (Table.find?_eq_some_iff _ _ _).2 (List.mem_of_getElem? stands)
  have merged : ((registry.merge base other).get base).fields =
      (registry.get base).fields.insertAll (registry.get other).fields.rows := by
    simp [merge, contains_of_find? known, get, Definition.merge, Table.find?_insert]
  obtain ⟨held, isRow, found⟩ :=
    Table.getElem?_insertAll _ (registry.get other).fields.rows stands
  rw [Table.find?_insertAll, known] at found
  rw [merged, isRow]
  cases own : (registry.get other).fields.find? name with
  | none =>
      rw [own] at found
      cases found
      rfl
  | some present =>
      rw [own] at found
      cases found
      rfl

/-- Whether a merge keeps the fields of the full text in their positions, but for those that the
other type declares itself. -/
def KeepsFullText (registry : Registry) (base other : String) : Prop :=
  ∀ (position : Nat) (name : String) (field : Field),
    (registry.get base).fields.rows[position]? = some (name, field) → field.inFullText = true →
    (∀ own, (registry.get other).fields.find? name = some own → own.aliasOf? ≠ none) →
    ((registry.merge base other).get base).fields.rows[position]? = some (name, field)

/-- Whether an alias of the other type has the name of a field of the full text. -/
def HidesFullText (registry : Registry) (base other : String) : Prop :=
  ∃ (name : String) (field own : Field), (registry.get base).fields.find? name = some field ∧
    field.inFullText = true ∧ (registry.get other).fields.find? name = some own ∧
    own.aliasOf? ≠ none

/-- A declaration of an alias leaves every full text as it was. A merge keeps each name in its
position, with what the other type has under it, and aliases are outside the full text; so it keeps
the fields of the full text exactly if no alias of the other type has the name of one of them. -/
theorem full_text_spared_iff (reachable : registry.IsReachable) (base other : String) :
    (∀ (given name target : Value) (ρ : Type) (view : RecordView ρ) (entityType : String)
      (record : ρ),
      (registry.defineQualifier given name target).2.buildFullText view entityType record =
        registry.buildFullText view entityType record) ∧
    (∀ (position : Nat) (name : String) (field : Field),
      (registry.get base).fields.rows[position]? = some (name, field) →
      ((registry.merge base other).get base).fields.rows[position]? =
        some (name, ((registry.get other).fields.find? name).getD field)) ∧
    (∀ name own, (registry.get other).fields.find? name = some own → own.aliasOf? ≠ none →
      own.inFullText = false) ∧
    (registry.KeepsFullText base other ↔ ¬ registry.HidesFullText base other) := by
  have plain := isPlain_of_reachable reachable
  have outside : ∀ name own, (registry.get other).fields.find? name = some own →
      own.aliasOf? ≠ none → own.inFullText = false := by
    intro name own known isAlias
    cases inFull : own.inFullText with
    | false => rfl
    | true => exact absurd (plain other name own known inFull) isAlias
  refine ⟨fun given name target _ view entityType record =>
    buildFullText_defineQualifier plain given name target view entityType record,
    fun _ _ _ => getElem?_merge, outside, ?_, ?_⟩
  · rintro keeps ⟨name, field, own, known, inFull, ownKnown, isAlias⟩
    obtain ⟨position, stands⟩ := List.mem_iff_getElem?.1 ((Table.find?_eq_some_iff _ _ _).1 known)
    have kept := keeps position name field stands inFull fun present found => by
      rw [ownKnown] at found
      cases found
      exact isAlias
    rw [getElem?_merge stands, ownKnown, Option.getD_some] at kept
    have same : own = field := congrArg Prod.snd (Option.some.inj kept)
    rw [← same, outside name own ownKnown isAlias] at inFull
    cases inFull
  · intro spares position name field stands inFull aliasesOnly
    rw [getElem?_merge stands]
    cases ownKnown : (registry.get other).fields.find? name with
    | none => rfl
    | some own =>
        have known := (Table.find?_eq_some_iff _ _ _).2 (List.mem_of_getElem? stands)
        exact absurd ⟨name, field, own, known, inFull, ownKnown, aliasesOnly own ownKnown⟩ spares

/-! ## Users and members -/

/-- Users have a name, and members only another name for their nickname. -/
def membersCalling (name : String) : Registry :=
  ((fresh true).defineField (.str "user") (.str "name") (some (.attributes ["name"])) true).2
    |>.defineQualifier (.str "member") (.str name) (.str "nick") |>.2

theorem isDeclared_membersCalling (name : String) : (membersCalling name).IsDeclared :=
  ((IsDeclared.fresh true).defineField (.str "user") (.str "name") (some (.attributes ["name"]))
    true).defineQualifier (.str "member") (.str name) (.str "nick")

/-- Members whose nickname has a name of its own leave users their full text. -/
theorem full_text_spared_called :
    (membersCalling "called").IsReachable ∧ (membersCalling "called").KeepsFullText "user" "member" ∧
      ((membersCalling "called").defineQualifier (.str "user") (.str "name")
          (.str "nick")).2.buildFullText RecordTree.view "user" =
        (membersCalling "called").buildFullText RecordTree.view "user" := by
  have reachable := (isDeclared_membersCalling "called").isReachable
  obtain ⟨declaring, -, -, keeps⟩ := full_text_spared_iff reachable "user" "member"
  refine ⟨reachable, keeps.2 ?_, funext fun record => declaring _ _ _ _ _ "user" record⟩
  rintro ⟨name, field, own, known, -, ownKnown, -⟩
  have isField := (Table.find?_eq_some_iff _ _ _).1 known
  have isOwn := (Table.find?_eq_some_iff _ _ _).1 ownKnown
  cases List.mem_singleton.1 (show (name, field) ∈
    [("name", (⟨.extractor (.attributes ["name"]), true⟩ : Field))] from isField)
  have sameName : "name" = "called" := congrArg Prod.fst (List.mem_singleton.1
    (show ("name", own) ∈ [("called", (⟨.alias "member" "nick", false⟩ : Field))] from isOwn))
  exact absurd sameName (by decide)

/-- Members whose nickname is called a name take the name of users out of the full text. -/
theorem merged_alias_hides_name :
    (membersCalling "name").IsDeclared ∧
      ¬ (membersCalling "name").KeepsFullText "user" "member" ∧
      ((membersCalling "name").buildFullText RecordTree.view "user"
        (.node ⟨⟨"user", .int 1⟩, .ofList [("name", .str "abraham")]⟩ []) .none).1 =
          .ok "abraham" ∧
      (((membersCalling "name").merge "user" "member").buildFullText RecordTree.view "user"
        (.node ⟨⟨"user", .int 1⟩, .ofList [("name", .str "abraham")]⟩ []) .none).1 = .ok "" := by
  have plainName : Text.normalize ["abraham"] = "abraham" := by decide +kernel
  have noText : Text.normalize [] = "" := by decide +kernel
  refine ⟨isDeclared_membersCalling "name", fun keeps => ?_, congrArg Except.ok plainName,
    congrArg Except.ok noText⟩
  have kept := keeps 0 "name" ⟨.extractor (.attributes ["name"]), true⟩ rfl rfl fun own known => by
    cases (show some (⟨.alias "member" "nick", false⟩ : Field) = some own from known)
    exact Option.some_ne_none _
  cases kept

end Registry

end ShadowIndex
