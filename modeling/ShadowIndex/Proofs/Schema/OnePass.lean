import ShadowIndex.Proofs.Schema.Extraction
import ShadowIndex.Proofs.Schema.Steady

/-!
Contract: texts that are built in one pass over the fields of a type, and the same texts built apart.

Owns:
- `Registry.failureOf?` and `Registry.fragmentsOf`, what a field gives for a record, and
  `Registry.firstFailure?`, the failure that ends a pass over fields;
- the outcome of each way to build texts, read off these;
- `Registry.withoutFailing`, a registry without the fields that fail outside the full text;
- `Registry.BuildsAgree`: where no field fails, the ways give the same texts; where some do, each way
  fails as the fields that it reads do (`builds_agree`).

Does not own: fields whose values read differently the second time.
-/

set_option autoImplicit false

namespace ShadowIndex

/-! ## Outcomes of actions -/

/-- A value, unless there is a failure. -/
def Failure.orGives {α : Type} (failure? : Option Failure) (value : α) : Except Failure α :=
  match failure? with
  | some failure => .error failure
  | none => .ok value

namespace Failure

variable {α β : Type}

theorem map_orGives (failure? : Option Failure) (value : α) (change : α → β) :
    (orGives failure? value).map change = orGives failure? (change value) := by
  cases failure? <;> rfl

theorem orGives_eq_error_iff {failure? : Option Failure} {value : α} {failure : Failure} :
    orGives failure? value = .error failure ↔ failure? = some failure := by
  cases failure? <;> simp [orGives]

end Failure

namespace Action

variable {σ α β : Type}

theorem yields_bind_pure {action : Action σ α} {outcome : Except Failure α}
    (yields : action.Yields outcome) (change : α → β) :
    (action >>= fun value => pure (change value)).Yields (outcome.map change) := by
  intro state
  rw [← yields state, bind_apply]
  cases action state with
  | mk outcome after => cases outcome <;> rfl

/-- A repetition of steps whose outcomes do not depend on the state has all their values, or the
failure of the first step that fails. -/
theorem yields_each {action : α → Action σ β} {failure? : α → Option Failure} {value : α → β}
    {items : List α}
    (step : ∀ item ∈ items, (action item).Yields (Failure.orGives (failure? item) (value item))) :
    (each action items).Yields
      (Failure.orGives (items.findSome? failure?) (items.map value)) := by
  induction items with
  | nil => exact fun _ => rfl
  | cons item rest inductionHypothesis =>
      intro state
      have first := step item List.mem_cons_self state
      have others := yields_bind_pure
        (inductionHypothesis fun other member => step other (List.mem_cons_of_mem _ member))
        fun values => value item :: values
      rw [Failure.map_orGives] at others
      rw [each, bind_apply]
      cases ran : action item state with
      | mk outcome after =>
          rw [ran] at first
          simp only at first
          subst first
          cases fails : failure? item with
          | some failure => simp [Failure.orGives, fails]
          | none => simpa [Failure.orGives, fails] using others after

end Action

namespace Registry

variable {ρ : Type}

/-! ## What fields give -/

/-- The failure of a field for a record, if it fails. -/
def failureOf? (registry : Registry) (view : RecordView ρ) (record : ρ) (field : Field) :
    Option Failure :=
  match registry.extractValue view record field with
  | .error failure => some failure
  | .ok _ => none

/-- The fragments of a field for a record; a field that fails has none. -/
def fragmentsOf (registry : Registry) (view : RecordView ρ) (record : ρ) (field : Field) :
    List String :=
  match registry.extractValue view record field with
  | .error _ => []
  | .ok value => value.fragments

/-- The failure of the first of some fields that fails. -/
def firstFailure? (registry : Registry) (view : RecordView ρ) (record : ρ)
    (rows : List (String × Field)) : Option Failure :=
  rows.findSome? fun row => registry.failureOf? view record row.2

variable {registry : Registry} {view : RecordView ρ} {entityType : String} {record : ρ}

theorem failureOf?_eq_some_iff {field : Field} {failure : Failure} :
    registry.failureOf? view record field = some failure ↔
      registry.extractValue view record field = .error failure := by
  unfold failureOf?
  cases registry.extractValue view record field <;> simp

theorem firstFailure?_eq_none_iff {rows : List (String × Field)} :
    registry.firstFailure? view record rows = none ↔
      ∀ row ∈ rows, registry.failureOf? view record row.2 = none :=
  List.findSome?_eq_none_iff

theorem yields_extract {field : Field}
    (steady : ∀ value, registry.extractValue view record field = .ok value → value.IsSteady) :
    (registry.extract view record field).Yields
      (Failure.orGives (registry.failureOf? view record field)
        (registry.fragmentsOf view record field)) := by
  intro streams
  rw [extract_of_view, Action.bind_apply]
  cases given : registry.extractValue view record field with
  | error failure => simp [Action.lift, failureOf?, given, Failure.orGives]
  | ok value =>
      have drawn := steady value given streams
      simp [Action.lift, failureOf?, fragmentsOf, given, Failure.orGives, Value.drawFragments, drawn]

theorem yields_fieldText {field : Field}
    (steady : ∀ value, registry.extractValue view record field = .ok value → value.IsSteady) :
    (registry.fieldText view record field).Yields
      (Failure.orGives (registry.failureOf? view record field)
        (Text.normalize (registry.fragmentsOf view record field))) := by
  have yields := Action.yields_bind_pure (yields_extract steady) Text.normalize
  rwa [Failure.map_orGives] at yields

/-! ## Outcomes of builds -/

/-- A field with its name and the fragments that it gives for a record. -/
def rowOf (registry : Registry) (view : RecordView ρ) (record : ρ) (row : String × Field) :
    String × Field × List String :=
  (row.1, row.2, registry.fragmentsOf view record row.2)

/-- The texts that the fields of a type make of what they give for a record. -/
def textsFor (registry : Registry) (view : RecordView ρ) (entityType : String) (record : ρ) :
    SearchTexts :=
  textsOf ((registry.get entityType).fields.rows.map (registry.rowOf view record))

theorem find?_textsFor {name : String} {field : Field}
    (known : (registry.get entityType).fields.find? name = some field) :
    (registry.textsFor view entityType record).fields.find? name =
      some (Text.normalize (registry.fragmentsOf view record field)) := by
  have names : (((registry.get entityType).fields.rows.map (registry.rowOf view record)).map
      fun row => (row.1, Text.normalize row.2.2)).map Prod.fst =
        (registry.get entityType).fields.rows.map Prod.fst := by
    simp [Function.comp_def, rowOf]
  rw [Table.find?_eq_some_iff, textsFor, textsOf,
    Table.rows_ofList (names ▸ (registry.get entityType).fields.nodup), List.map_map]
  exact List.mem_map.2 ⟨(name, field), (Table.find?_eq_some_iff _ _ _).1 known, rfl⟩

section Outcomes

variable (steady : registry.IsSteadyFor view entityType record)
include steady

theorem yields_pass {rows : List (String × Field)}
    (within : ∀ row ∈ rows, row ∈ (registry.get entityType).fields.rows) :
    (Action.each (registry.extractNamed view record) rows).Yields
      (Failure.orGives (registry.firstFailure? view record rows)
        (rows.map (registry.rowOf view record))) := by
  refine Action.yields_each fun row member => ?_
  have yields := Action.yields_bind_pure (yields_extract (steady row (within row member)))
    fun fragments => (row.1, row.2, fragments)
  rwa [Failure.map_orGives] at yields

theorem yields_build : (registry.build view entityType record).Yields
    (Failure.orGives (registry.firstFailure? view record (registry.get entityType).fields.rows)
      (registry.textsFor view entityType record)) := by
  have yields := Action.yields_bind_pure (yields_pass steady fun _ member => member) textsOf
  rwa [Failure.map_orGives] at yields

theorem yields_buildFullText : (registry.buildFullText view entityType record).Yields
    (Failure.orGives (registry.firstFailure? view record (registry.get entityType).fullTextFields)
      (registry.textsFor view entityType record).full) := by
  have within : ∀ row ∈ (registry.get entityType).fullTextFields,
      row ∈ (registry.get entityType).fields.rows := fun _ member => (List.mem_filter.1 member).1
  have yields := Action.yields_bind_pure (yields_pass steady within)
    fun extracted => Text.normalize (extracted.flatMap fun row => row.2.2)
  rw [Failure.map_orGives] at yields
  rw [textsFor, textsOf, List.filter_map]
  exact yields

theorem yields_buildFieldTexts : (registry.buildFieldTexts view entityType record).Yields
    (Failure.orGives (registry.firstFailure? view record (registry.get entityType).fields.rows)
      (registry.textsFor view entityType record).fields) := by
  have step : ∀ row ∈ (registry.get entityType).fields.rows,
      (do return (row.1, ← registry.fieldText view record row.2) :
        Action Streams (String × String)).Yields
        (Failure.orGives (registry.failureOf? view record row.2)
          (row.1, Text.normalize (registry.fragmentsOf view record row.2))) := by
    intro row member
    have yields := Action.yields_bind_pure (yields_fieldText (steady row member))
      fun text => (row.1, text)
    rwa [Failure.map_orGives] at yields
  have yields := Action.yields_bind_pure (Action.yields_each step) Table.ofList
  rw [Failure.map_orGives] at yields
  rw [textsFor, textsOf, List.map_map]
  exact yields

theorem yields_buildQualifierText {qualifier name : String} {field : Field}
    (selected : registry.resolve entityType qualifier = some (name, field)) :
    (registry.buildQualifierText view entityType record qualifier).Yields
      (Failure.orGives (registry.failureOf? view record field)
        (Text.normalize (registry.fragmentsOf view record field))) := by
  have member := (Table.find?_eq_some_iff _ _ _).1 (Definition.find?_of_resolve selected)
  have yields := yields_fieldText (steady (name, field) member)
  simpa only [buildQualifierText, selected] using yields

end Outcomes

theorem yields_buildQualifierText_unknown {qualifier : String}
    (unknown : registry.resolve entityType qualifier = none) :
    (registry.buildQualifierText view entityType record qualifier).Yields (.ok "") := by
  intro streams
  simp [buildQualifierText, unknown]

/-! ## Without the fields that fail -/

/-- Whether a field is in the full text of its type, or gives a value for a record. -/
def keeps (registry : Registry) (view : RecordView ρ) (record : ρ) (row : String × Field) : Bool :=
  row.2.inFullText || (registry.failureOf? view record row.2).isNone

/-- A registry in which a type lacks the fields outside its full text that fail for a record. -/
def withoutFailing (registry : Registry) (view : RecordView ρ) (entityType : String)
    (record : ρ) : Registry :=
  { registry with
    definitions := registry.definitions.modify entityType fun definition =>
      { definition with fields := definition.fields.filter (registry.keeps view record) } }

theorem fields_withoutFailing : ((registry.withoutFailing view entityType record).get
    entityType).fields = (registry.get entityType).fields.filter (registry.keeps view record) := by
  simp only [withoutFailing, get, Table.find?_modify]
  cases registry.definitions.find? entityType <;> rfl

theorem get_withoutFailing_of_ne {other : String} (different : other ≠ entityType) :
    (registry.withoutFailing view entityType record).get other = registry.get other := by
  simp only [withoutFailing, get, Table.find?_modify, if_neg different]
  rfl

theorem fullTextFields_withoutFailing : ((registry.withoutFailing view entityType record).get
    entityType).fullTextFields = (registry.get entityType).fullTextFields := by
  rw [Definition.fullTextFields, fields_withoutFailing, Table.filter, List.filter_filter]
  refine List.filter_congr fun row _ => ?_
  cases inFull : row.2.inFullText <;> simp [keeps, inFull]

/-- A field that gives a value gives it also without the fields that fail: an alias of one of those
fails itself. -/
theorem extractValue_withoutFailing {field : Field}
    (gives : registry.failureOf? view record field = none) :
    (registry.withoutFailing view entityType record).extractValue view record field =
      registry.extractValue view record field := by
  cases source : field.source with
  | extractor rule => simp only [extractValue, source]
  | «alias» home target =>
      by_cases same : home = entityType
      · subst same
        have sameRule : (((registry.withoutFailing view home record).get home).fields.find?
            target).bind Field.rule? = ((registry.get home).fields.find? target).bind Field.rule? := by
          rw [fields_withoutFailing, Table.find?_filter]
          cases known : (registry.get home).fields.find? target with
          | none => rfl
          | some behind =>
              by_cases kept : registry.keeps view record (target, behind) = true
              · rw [Option.filter_some, if_pos kept]
              · rw [Option.filter_some, if_neg kept]
                simp only [keeps, Bool.or_eq_true, Option.isNone_iff_eq_none, not_or] at kept
                cases ownRule : behind.rule? with
                | none => simp [ownRule]
                | some rule =>
                    have sameValue : registry.extractValue view record behind =
                        registry.extractValue view record field := by
                      have behindSource : behind.source = .extractor rule := by
                        unfold Field.rule? at ownRule
                        split at ownRule <;> simp_all
                      simp [extractValue, source, behindSource, known, Field.rule?]
                    rw [failureOf?, ← sameValue] at gives
                    exact absurd gives kept.2
        simp only [extractValue, source, sameRule]
      · simp only [extractValue, source, get_withoutFailing_of_ne same]

/-- The fields of the full text do not fail, and those that fail outside it are gone. -/
theorem gives_of_mem_withoutFailing
    (full : registry.firstFailure? view record (registry.get entityType).fullTextFields = none)
    {row : String × Field} (member : row ∈ ((registry.withoutFailing view entityType record).get
      entityType).fields.rows) :
    row ∈ (registry.get entityType).fields.rows ∧
      registry.failureOf? view record row.2 = none := by
  rw [fields_withoutFailing] at member
  obtain ⟨isRow, kept⟩ := List.mem_filter.1 member
  refine ⟨isRow, ?_⟩
  simp only [keeps, Bool.or_eq_true, Option.isNone_iff_eq_none] at kept
  rcases kept with inFull | gives
  · exact firstFailure?_eq_none_iff.1 full row (List.mem_filter.2 ⟨isRow, inFull⟩)
  · exact gives

theorem isSteadyFor_withoutFailing (steady : registry.IsSteadyFor view entityType record)
    (full : registry.firstFailure? view record (registry.get entityType).fullTextFields = none) :
    (registry.withoutFailing view entityType record).IsSteadyFor view entityType record := by
  intro row member
  obtain ⟨isRow, gives⟩ := gives_of_mem_withoutFailing full member
  rw [extractValue_withoutFailing gives]
  exact steady row isRow

theorem firstFailure?_withoutFailing
    (full : registry.firstFailure? view record (registry.get entityType).fullTextFields = none) :
    (registry.withoutFailing view entityType record).firstFailure? view record
      ((registry.withoutFailing view entityType record).get entityType).fields.rows = none := by
  refine firstFailure?_eq_none_iff.2 fun row member => ?_
  have gives := (gives_of_mem_withoutFailing full member).2
  rwa [failureOf?, extractValue_withoutFailing gives]

theorem buildFullText_withoutFailing
    (full : registry.firstFailure? view record (registry.get entityType).fullTextFields = none) :
    (registry.withoutFailing view entityType record).buildFullText view entityType record =
      registry.buildFullText view entityType record := by
  have sameSteps : ∀ row ∈ (registry.get entityType).fullTextFields,
      (registry.withoutFailing view entityType record).extractNamed view record row =
        registry.extractNamed view record row := by
    intro row member
    have gives := firstFailure?_eq_none_iff.1 full row member
    simp only [extractNamed, extract, extractValue_withoutFailing gives]
  simp only [buildFullText, fullTextFields_withoutFailing, Action.each_congr sameSteps]

/-! ## Agreement -/

/-- How the ways to build the texts of a record agree, also where fields fail. -/
structure BuildsAgree (registry : Registry) (view : RecordView ρ) (entityType : String)
    (record : ρ) : Prop where
  /-- Where no field fails, one pass gives the texts that are built apart. -/
  whole : registry.firstFailure? view record (registry.get entityType).fields.rows = none →
    ∃ texts, (registry.build view entityType record).Yields (.ok texts) ∧
      (registry.buildFullText view entityType record).Yields (.ok texts.full) ∧
      (registry.buildFieldTexts view entityType record).Yields (.ok texts.fields) ∧
      ∀ qualifier name field, registry.resolve entityType qualifier = some (name, field) →
        ∃ text, texts.fields.find? name = some text ∧
          (registry.buildQualifierText view entityType record qualifier).Yields (.ok text)
  unknown : ∀ qualifier, registry.resolve entityType qualifier = none →
    (registry.buildQualifierText view entityType record qualifier).Yields (.ok "")
  /-- Where fields fail, the first of them ends each pass over all fields. -/
  broken : ∀ failure,
    registry.firstFailure? view record (registry.get entityType).fields.rows = some failure →
      (registry.build view entityType record).Yields (.error failure) ∧
        (registry.buildFieldTexts view entityType record).Yields (.error failure)
  fullBroken : ∀ failure,
    registry.firstFailure? view record (registry.get entityType).fullTextFields = some failure →
      (registry.buildFullText view entityType record).Yields (.error failure)
  /-- Where no field of the full text fails, the full text is the one that all ways give without
  the fields that fail. -/
  full : registry.firstFailure? view record (registry.get entityType).fullTextFields = none →
    ∃ texts, ((registry.withoutFailing view entityType record).build view entityType
        record).Yields (.ok texts) ∧
      ((registry.withoutFailing view entityType record).buildFullText view entityType
        record).Yields (.ok texts.full) ∧
      (registry.buildFullText view entityType record).Yields (.ok texts.full)
  /-- The text behind a qualifier fails exactly as the field that the qualifier selects. -/
  qualifier : ∀ qualifier failure streams,
    (registry.buildQualifierText view entityType record qualifier streams).1 = .error failure ↔
      ∃ name field, registry.resolve entityType qualifier = some (name, field) ∧
        registry.extractValue view record field = .error failure

/-- One pass over the fields of a record agrees with the texts that are built apart, and fails as
they do. -/
theorem builds_agree (steady : registry.IsSteadyFor view entityType record) :
    registry.BuildsAgree view entityType record where
  whole fine := by
    have fullFine : registry.firstFailure? view record
        (registry.get entityType).fullTextFields = none :=
      firstFailure?_eq_none_iff.2 fun row member =>
        firstFailure?_eq_none_iff.1 fine row (List.mem_filter.1 member).1
    refine ⟨registry.textsFor view entityType record, ?_, ?_, ?_, ?_⟩
    · simpa only [fine, Failure.orGives] using yields_build steady
    · simpa only [fullFine, Failure.orGives] using yields_buildFullText steady
    · simpa only [fine, Failure.orGives] using yields_buildFieldTexts steady
    · intro qualifier name field selected
      have known := Definition.find?_of_resolve selected
      have gives := firstFailure?_eq_none_iff.1 fine _ ((Table.find?_eq_some_iff _ _ _).1 known)
      refine ⟨_, find?_textsFor known, ?_⟩
      simpa only [gives, Failure.orGives] using yields_buildQualifierText steady selected
  unknown _ := yields_buildQualifierText_unknown
  broken failure first := by
    have build := yields_build steady
    have fieldTexts := yields_buildFieldTexts steady
    simp only [first, Failure.orGives] at build fieldTexts
    exact ⟨build, fieldTexts⟩
  fullBroken failure first := by
    simpa only [first, Failure.orGives] using yields_buildFullText steady
  full fine := by
    have thinned := isSteadyFor_withoutFailing steady fine
    have build := yields_build thinned
    have fullText := yields_buildFullText thinned
    have within : (registry.withoutFailing view entityType record).firstFailure? view record
        ((registry.withoutFailing view entityType record).get entityType).fullTextFields = none :=
      firstFailure?_eq_none_iff.2 fun row member =>
        firstFailure?_eq_none_iff.1 (firstFailure?_withoutFailing fine) row
          (List.mem_filter.1 member).1
    simp only [firstFailure?_withoutFailing fine, within, Failure.orGives] at build fullText
    exact ⟨_, build, fullText, buildFullText_withoutFailing fine ▸ fullText⟩
  qualifier qualifier failure streams := by
    cases selected : registry.resolve entityType qualifier with
    | none => simp [yields_buildQualifierText_unknown selected streams]
    | some row =>
        obtain ⟨name, field⟩ := row
        rw [yields_buildQualifierText steady selected streams, Failure.orGives_eq_error_iff,
          failureOf?_eq_some_iff]
        constructor
        · exact fun fails => ⟨name, field, rfl, fails⟩
        · rintro ⟨_, _, same, fails⟩
          cases same
          exact fails

/-! ## Users with a nickname that is not there -/

/-- Users have a name, and outside the full text a nickname that has to be there, which queries can
call by another name, too. -/
def nicknamedUsers : Registry :=
  ((fresh true).defineField (.str "user") (.str "name") (some (.item "name")) true).2
    |>.defineField (.str "user") (.str "nick") (some (.item "nick")) false |>.2
    |>.defineQualifier (.str "user") (.str "called") (.str "nick") |>.2

def userWithoutNickname : RecordTree :=
  .node ⟨⟨"user", .int 1⟩, .ofList [("name", .str "Abraham")]⟩ []

theorem isSteadyFor_nicknamedUsers :
    nicknamedUsers.IsSteadyFor RecordTree.view "user" userWithoutNickname := by
  have rows : (nicknamedUsers.get "user").fields.rows = [("name", ⟨.extractor (.item "name"), true⟩),
      ("nick", ⟨.extractor (.item "nick"), false⟩), ("called", ⟨.alias "user" "nick", false⟩)] := rfl
  intro row member value gives
  rw [rows] at member
  rcases List.mem_cons.1 member with rfl | member
  · cases gives
    exact Value.isSteady_of_solid rfl
  · rcases List.mem_cons.1 member with rfl | member
    · cases gives
    · cases List.mem_singleton.1 member
      cases gives

/-- Without the nickname the texts fail together, the full text stands, and what reads the nickname
fails. -/
theorem builds_agree_without_nickname :
    nicknamedUsers.IsSteadyFor RecordTree.view "user" userWithoutNickname ∧
      (nicknamedUsers.build RecordTree.view "user" userWithoutNickname).Yields
        (.error (.missingField "nick")) ∧
      (nicknamedUsers.buildFieldTexts RecordTree.view "user" userWithoutNickname).Yields
        (.error (.missingField "nick")) ∧
      (nicknamedUsers.buildFullText RecordTree.view "user" userWithoutNickname).Yields
        (.ok "Abraham") ∧
      (nicknamedUsers.buildQualifierText RecordTree.view "user" userWithoutNickname "called"
        .none).1 = .error (.missingField "nick") := by
  have agree := builds_agree isSteadyFor_nicknamedUsers
  obtain ⟨texts, apart, -, full⟩ := agree.full rfl
  obtain ⟨build, fieldTexts⟩ := agree.broken (.missingField "nick") rfl
  refine ⟨isSteadyFor_nicknamedUsers, build, fieldTexts, ?_,
    (agree.qualifier "called" _ .none).2 ⟨"called", _, rfl, rfl⟩⟩
  have made : texts = textsOf [("name", ⟨.extractor (.item "name"), true⟩, ["Abraham"])] := by
    have sameTexts := (apart .none).symm
    exact Except.ok.inj sameTexts
  rw [made] at full
  have isFull : (textsOf [("name", ⟨.extractor (.item "name"), true⟩, ["Abraham"])]).full =
      "Abraham" := by decide +kernel
  rwa [isFull] at full

end Registry

end ShadowIndex
