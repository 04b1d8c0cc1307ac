import ShadowIndex.Proofs.Index.Flagging
import ShadowIndex.Proofs.Schema.Redefining
import ShadowIndex.Service

/-!
Contract: declarations of searchable fields at a service are all or nothing.

Owns:
- `Service.Accepts`, exactly the arguments that are accepted;
- `Service.IsUntouched` and `Service.Redefined`, what a refused and an accepted declaration leave;
- `Service.define_all_or_nothing`: there is no third case, whatever is given for the arguments.

Does not own: how stale entries are built again.
-/

set_option autoImplicit false

namespace ShadowIndex

/-- The field that a rule makes for a type. What is neither an extractor nor a name makes none. -/
def FieldRule.field? (entityType : String) (inFullText : Bool) : FieldRule → Option Field
  | extractor rule => some ⟨.extractor rule, inFullText⟩
  | «alias» target => some ⟨.alias entityType target, false⟩
  | unusable => none

/-- Whether a definition takes a rule under a name. An alias must not hide a field of the full text. -/
def Definition.Takes (definition : Definition) (name : String) : FieldRule → Prop
  | .extractor _ => True
  | .alias target => IsProperName target ∧
      ∀ present, definition.fields.find? name = some present →
        present.aliasOf? = none → present.inFullText = false
  | .unusable => False

/-- What is checked of a name and a rule, whatever the rule is. -/
def FieldRule.check (name : Value) (inFullText : Bool) :
    FieldRule → Registry → String → Except Failure (String × Field)
  | extractor rule, _, _ => Registry.checkField name (some rule) inFullText
  | «alias» target, opened, entityType => opened.checkAlias entityType name (.str target)
  | unusable, _, _ => Registry.checkField name none inFullText

/-- A check passes exactly under a proper name for which the type takes the rule. -/
theorem FieldRule.check_eq_ok_iff {rule : FieldRule} {registry : Registry} {name : Value}
    {inFullText : Bool} {entityType fieldName : String} {field : Field} :
    rule.check name inFullText registry entityType = .ok (fieldName, field) ↔
      name = .str fieldName ∧ IsProperName fieldName ∧
        (registry.get entityType).Takes fieldName rule ∧
          rule.field? entityType inFullText = some field := by
  constructor
  · intro checked
    cases rule with
    | extractor rule =>
        simp only [check] at checked
        obtain ⟨nameChecked, _, same, rfl⟩ := Registry.checkField_inv checked
        cases same
        obtain ⟨isName, proper⟩ := (checkFieldName_eq_ok_iff _ _).1 nameChecked
        exact ⟨isName, proper, trivial, rfl⟩
    | «alias» target =>
        simp only [check] at checked
        obtain ⟨nameChecked, ⟨behind, targetChecked, rfl⟩, free⟩ := Registry.checkAlias_inv checked
        obtain ⟨isName, proper⟩ := (checkFieldName_eq_ok_iff _ _).1 nameChecked
        obtain ⟨isTarget, targetProper⟩ := (checkFieldName_eq_ok_iff _ _).1 targetChecked
        cases isTarget
        exact ⟨isName, proper, ⟨targetProper, free⟩, rfl⟩
    | unusable =>
        simp only [check] at checked
        obtain ⟨-, _, impossible, -⟩ := Registry.checkField_inv checked
        cases impossible
  · rintro ⟨rfl, proper, takes, made⟩
    cases rule with
    | extractor rule =>
        cases made
        exact Registry.checkField_of_isProperName proper rule inFullText
    | «alias» target =>
        cases made
        exact Registry.checkAlias_of_isProperName proper takes.1 takes.2
    | unusable => exact takes.elim

namespace Service

/-! ## Accepted arguments -/

/-- Arguments that name a type and a field, with a rule that the type takes under that name. -/
structure Accepts (registry : Registry) (given name : Value) (rule : FieldRule)
    (entityType fieldName : String) : Prop where
  isType : given = .str entityType
  nonempty : entityType ≠ ""
  isName : name = .str fieldName
  proper : IsProperName fieldName
  takes : (registry.get entityType).Takes fieldName rule

variable {registry after : Registry} {given name : Value} {rule : FieldRule}
  {entityType fieldName : String} {inFullText : Bool}

theorem declareIn_eq (registry : Registry) (given name : Value) (inFullText : Bool)
    (rule : FieldRule) : declareIn registry given name inFullText rule =
      registry.declareChecked given (rule.check name inFullText) := by
  cases rule <;> rfl

theorem declareIn_of_accepts (inFullText : Bool)
    (accepts : Accepts registry given name rule entityType fieldName) :
    ∃ field, rule.field? entityType inFullText = some field ∧
      declareIn registry given name inFullText rule =
        (.ok (fieldName, field),
          (registry.withType entityType).declare entityType fieldName field) := by
  obtain ⟨rfl, nonempty, isName, proper, takes⟩ := accepts
  obtain ⟨field, made⟩ : ∃ field, rule.field? entityType inFullText = some field := by
    cases rule with
    | extractor rule => exact ⟨_, rfl⟩
    | «alias» target => exact ⟨_, rfl⟩
    | unusable => exact takes.elim
  rw [← Registry.get_withType registry entityType entityType] at takes
  refine ⟨field, made, ?_⟩
  rw [declareIn_eq]
  exact Registry.declareChecked_of_ok nonempty
    (FieldRule.check_eq_ok_iff.2 ⟨isName, proper, takes, made⟩)

theorem accepts_of_declareIn {field : Field}
    (declared : declareIn registry given name inFullText rule = (.ok (fieldName, field), after)) :
    ∃ entityType, Accepts registry given name rule entityType fieldName := by
  rw [declareIn_eq] at declared
  rcases Registry.declareChecked_inv declared with
    ⟨⟨failure, impossible⟩, -⟩ | ⟨entityType, _, _, isType, nonempty, same, checked, -⟩
  · cases impossible
  · cases same
    obtain ⟨isName, proper, takes, -⟩ := FieldRule.check_eq_ok_iff.1 checked
    rw [Registry.get_withType] at takes
    exact ⟨entityType, isType, nonempty, isName, proper, takes⟩

theorem showsSame_of_declareIn {failure : Failure}
    (refused : declareIn registry given name inFullText rule = (.error failure, after)) :
    registry.ShowsSame after := by
  rw [declareIn_eq] at refused
  exact Registry.showsSame_of_refused refused

/-! ## What a declaration leaves -/

/-- All that a service shows is as it was. -/
structure IsUntouched (service after : Service) : Prop where
  index : after.index = service.index
  settings : after.catalog.settings = service.catalog.settings
  dependencies : after.catalog.dependencies = service.catalog.dependencies
  types : after.catalog.registry.types = service.catalog.registry.types
  registered : ∀ entityType, after.catalog.registry.isRegistered entityType =
    service.catalog.registry.isRegistered entityType
  names : ∀ entityType, (after.catalog.registry.get entityType).names =
    (service.catalog.registry.get entityType).names
  resolves : ∀ entityType qualifier, after.catalog.registry.resolve entityType qualifier =
    service.catalog.registry.resolve entityType qualifier
  builds : ∀ {ρ : Type} (view : RecordView ρ) entityType record,
    after.catalog.registry.build view entityType record =
      service.catalog.registry.build view entityType record
  buildsFullText : ∀ {ρ : Type} (view : RecordView ρ) entityType record,
    after.catalog.registry.buildFullText view entityType record =
      service.catalog.registry.buildFullText view entityType record
  buildsFieldTexts : ∀ {ρ : Type} (view : RecordView ρ) entityType record,
    after.catalog.registry.buildFieldTexts view entityType record =
      service.catalog.registry.buildFieldTexts view entityType record
  buildsQualifierText : ∀ {ρ : Type} (view : RecordView ρ) entityType record qualifier,
    after.catalog.registry.buildQualifierText view entityType record qualifier =
      service.catalog.registry.buildQualifierText view entityType record qualifier

/-- One field of one type is declared, and the entries of this type are stale where they stand, with
their texts. Their number is counted, and nothing else is. -/
structure Redefined (entityType fieldName : String) (field : Field) (service after : Service) :
    Prop where
  redefines : service.catalog.registry.Redefines entityType fieldName field after.catalog.registry
  settings : after.catalog.settings = service.catalog.settings
  dependencies : after.catalog.dependencies = service.catalog.dependencies
  entries : after.index.store.entries = Listing.flagType entityType service.index.store.entries
  counted : ∀ counter, after.index.trail.total counter = service.index.trail.total counter +
    if counter = Index.syntaxMarks entityType then
      (Listing.ownerIds entityType service.index.store.entries).length
    else 0

theorem isUntouched_setRegistry {service : Service}
    (same : service.catalog.registry.ShowsSame after) :
    IsUntouched service (service.setRegistry after) where
  index := rfl
  settings := rfl
  dependencies := rfl
  types := same.types
  registered := same.isRegistered
  names := same.names
  resolves := same.resolve
  builds := same.build
  buildsFullText := same.buildFullText
  buildsFieldTexts := same.buildFieldTexts
  buildsQualifierText := same.buildQualifierText

/-- Notes are no counts. -/
theorem each_note_apply (notes : List Note) (index : Index) :
    ∃ values trail, Action.each Index.note notes index = (.ok values, { index with trail := trail }) ∧
      ∀ counter, trail.total counter = index.trail.total counter := by
  induction notes generalizing index with
  | nil => exact ⟨[], index.trail, rfl, fun _ => rfl⟩
  | cons note rest inductionHypothesis =>
      obtain ⟨values, trail, noted, totals⟩ := inductionHypothesis (index.record (.note note))
      refine ⟨() :: values, trail, ?_, fun counter => (totals counter).trans ?_⟩
      · rw [Action.each, Action.bind_apply, Index.note, Index.emit, Action.change]
        dsimp only
        rw [Action.bind_apply, noted]
        rfl
      · exact Trail.total_record index.trail (.note note) counter

/-- What an accepted declaration comes to. -/
theorem define_of_declareIn {field : Field} {service : Service}
    (declared : declareIn service.catalog.registry (.str entityType) name inFullText rule =
      (.ok (fieldName, field), after)) (ordered : service.index.store.IsOrdered)
    (serves : service.index.store.Serves fun id =>
      ∃ stored, (service.index.store.find? ⟨stored, id⟩).isSome = true)
    (redefines : service.catalog.registry.Redefines entityType fieldName field after) :
    (define (.str entityType) name rule inFullText service).1 = .ok (fieldName, field) ∧
      Redefined entityType fieldName field service
        (define (.str entityType) name rule inFullText service).2 := by
  obtain ⟨values, trail, noted, totals⟩ := each_note_apply
    (declarationNotes service.catalog.registry entityType fieldName field) service.index
  obtain ⟨returned, -, lists, counted⟩ := Index.markType_flags entityType
    { service.index with trail := trail } ordered
    ⟨serves.opened, fun id known => serves.accepts id ⟨entityType, known⟩⟩
  have marked : (onIndex fun _ => do
      let _ ← Action.each Index.note
        (declarationNotes service.catalog.registry entityType fieldName field)
      Index.markType entityType : Action Service Unit) (service.setRegistry after) =
      (.ok (), { service.setRegistry after with
        index := (Index.markType entityType { service.index with trail := trail }).2 }) := by
    have same : (service.setRegistry after).index = service.index := rfl
    rw [onIndex, same, Action.bind_apply, noted]
    dsimp only
    rw [returned]
  simp only [define, declared, marked]
  exact ⟨trivial, redefines, rfl, rfl, lists.entries, fun counter => by rw [counted, totals]⟩

/-- Whatever is given, a declaration is refused and nothing that the service shows is changed, or it
is accepted, and one field and the entries of its type are changed. -/
theorem define_all_or_nothing (service : Service) (given name : Value) (rule : FieldRule)
    (inFullText : Bool) (ordered : service.index.store.IsOrdered)
    (serves : service.index.store.Serves fun id =>
      ∃ stored, (service.index.store.find? ⟨stored, id⟩).isSome = true) :
    let run := define given name rule inFullText service
    (∃ failure, run.1 = .error failure ∧ IsUntouched service run.2 ∧
        ∀ entityType fieldName,
          ¬ Accepts service.catalog.registry given name rule entityType fieldName) ∨
      ∃ entityType fieldName field,
        Accepts service.catalog.registry given name rule entityType fieldName ∧
          rule.field? entityType inFullText = some field ∧ run.1 = .ok (fieldName, field) ∧
          Redefined entityType fieldName field service run.2 := by
  intro run
  cases declared : declareIn service.catalog.registry given name inFullText rule with
  | mk outcome registry =>
      cases outcome with
      | error failure =>
          have ran : run = (.error failure, service.setRegistry registry) := by
            simp only [run, define, declared]
          refine Or.inl ⟨failure, by rw [ran], ?_, fun entityType fieldName accepts => ?_⟩
          · rw [ran]
            exact isUntouched_setRegistry (showsSame_of_declareIn declared)
          · obtain ⟨field, -, accepted⟩ := declareIn_of_accepts inFullText accepts
            rw [declared] at accepted
            cases accepted
      | ok result =>
          obtain ⟨fieldName, field⟩ := result
          obtain ⟨entityType, accepts⟩ := accepts_of_declareIn declared
          obtain ⟨made, isField, accepted⟩ := declareIn_of_accepts inFullText accepts
          rw [declared] at accepted
          cases accepted
          obtain rfl := accepts.isType
          obtain ⟨returned, redefined⟩ := define_of_declareIn declared ordered serves
            (Registry.redefines_declare service.catalog.registry entityType fieldName field)
          exact Or.inr ⟨entityType, fieldName, field, accepts, isField, returned, redefined⟩

/-- Posts have a title, and an entry that is up to date; so has a note. -/
def shelf : Service where
  catalog := ⟨default, ⟨true, .ofList [("post", ⟨true, .ofList [("title",
    ⟨.extractor (.attributes ["title"]), true⟩)]⟩)]⟩, .empty⟩
  index := { (default : Index) with
    store := .memory ⟨.ofList [(⟨"post", .int 1⟩, .ofTexts ⟨"thread", .empty⟩),
      (⟨"note", .int 1⟩, .ofTexts ⟨"needle", .empty⟩)]⟩ }

theorem define_all_or_nothing_shelf :
    let accepted := define (.str "post") (.str "headline") (.alias "title") true shelf
    let refused := define (.str "post") (.str "title") (.alias "body") true shelf
    (accepted.1 = .ok ("headline", ⟨.alias "post" "title", false⟩) ∧
        Redefined "post" "headline" ⟨.alias "post" "title", false⟩ shelf accepted.2) ∧
      (∃ failure, refused.1 = .error failure) ∧ IsUntouched shelf refused.2 := by
  intro accepted refused
  have serves : shelf.index.store.Serves fun id =>
      ∃ stored, (shelf.index.store.find? ⟨stored, id⟩).isSome = true := ⟨rfl, fun _ _ => trivial⟩
  have titled : (shelf.catalog.registry.get "post").fields.find? "title" =
      some ⟨.extractor (.attributes ["title"]), true⟩ := rfl
  constructor
  · have accepts : Accepts shelf.catalog.registry (.str "post") (.str "headline") (.alias "title")
        "post" "headline" :=
      ⟨rfl, by decide, rfl, by decide +kernel, by decide +kernel, nofun⟩
    rcases define_all_or_nothing shelf (.str "post") (.str "headline") (.alias "title") true trivial
        serves with ⟨failure, -, -, refused⟩ | ⟨entityType, fieldName, field, given, made, ran⟩
    · exact absurd accepts (refused _ _)
    · cases given.isType
      cases given.isName
      cases made
      exact ran
  · rcases define_all_or_nothing shelf (.str "post") (.str "title") (.alias "body") true trivial
        serves with ⟨failure, refused, untouched, -⟩ | ⟨entityType, fieldName, field, given, -⟩
    · exact ⟨⟨failure, refused⟩, untouched⟩
    · cases given.isType
      cases given.isName
      cases given.takes.2 _ titled rfl

end Service

end ShadowIndex
