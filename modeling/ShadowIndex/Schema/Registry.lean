import ShadowIndex.Schema.Extractor
import ShadowIndex.Text.Blank
import ShadowIndex.Text.CaseFold
import ShadowIndex.Value.Key

/-!
Contract: which fields of each type can be searched.

Owns:
- `Field` and `Definition`, the ordered fields of one type;
- aliases, which read through to a field of the definition they were declared in, or else to
  the plain attribute of that name;
- `Registry`, the definitions of all types, its changes and look-ups.

Does not own: the text built from fields.
-/

set_option autoImplicit false

namespace ShadowIndex

/-- Where the value of a field comes from: its own extractor, or the field or attribute
`target` as the definition of type `home` knows it. -/
inductive FieldSource where
  | extractor (rule : Extractor)
  | alias (home target : String)
deriving Inhabited

structure Field where
  source : FieldSource
  inFullText : Bool
deriving Inhabited

namespace Field

/-- What an alias reads. -/
def aliasOf? (field : Field) : Option String :=
  match field.source with
  | .extractor _ => none
  | .alias _ target => some target

/-- The extractor of a field that is no alias. -/
def rule? (field : Field) : Option Extractor :=
  match field.source with
  | .extractor rule => some rule
  | .alias .. => none

end Field

/-- The fields of one type, by name and in order of declaration. -/
structure Definition where
  caseSensitive : Bool
  fields : Table String Field

instance : Inhabited Definition := ⟨⟨true, .empty⟩⟩

namespace Definition

def names (definition : Definition) : List String := definition.fields.keys

def isEmpty (definition : Definition) : Bool := definition.fields.isEmpty

def fullTextFields (definition : Definition) : List (String × Field) :=
  definition.fields.rows.filter fun row => row.2.inFullText

/-- The field that a qualifier selects: the one of exactly that name, or, where case does not
matter, the first whose name differs in case only. -/
def resolve (definition : Definition) (qualifier : String) : Option (String × Field) :=
  match definition.fields.find? qualifier with
  | some field => some (qualifier, field)
  | none =>
      if definition.caseSensitive then none
      else
        definition.fields.rows.find? fun row =>
          decide (Text.foldCase row.1 = Text.foldCase qualifier)

def knows (definition : Definition) (qualifier : String) : Bool :=
  (definition.resolve qualifier).isSome

/-- Declares a field, in place of one that has its name. -/
def declare (definition : Definition) (name : String) (field : Field) : Definition :=
  { definition with fields := definition.fields.insert name field }

/-- Declares every field of another definition, in its order. -/
def merge (definition other : Definition) : Definition :=
  { definition with fields := definition.fields.insertAll other.fields.rows }

/-- The written form of a definition of a type. -/
def text (definition : Definition) (entityType : String) : String :=
  "SyntaxDefinition(" ++ Text.quoted entityType ++ ", fields="
    ++ (Value.list (definition.names.map Value.str)).literal ++ ")"

end Definition

/-- The definitions of all types, in order of their first declaration. -/
structure Registry where
  caseSensitive : Bool
  definitions : Table String Definition

instance : Inhabited Registry := ⟨⟨true, .empty⟩⟩

/-- Whether a text can name a field: it has characters, and none is blank or a colon. -/
def checkFieldName (name : Value) : Except Failure String :=
  match name with
  | .str text =>
      if text.isEmpty then .error (.definition .fieldName)
      else if text.toList.any fun c => c == ':' || Text.isBlank c then
        .error (.definition (.fieldCharacters text))
      else .ok text
  | _ => .error (.definition .fieldName)

namespace Registry

def fresh (caseSensitive : Bool) : Registry := ⟨caseSensitive, .empty⟩

def blank (registry : Registry) : Definition := ⟨registry.caseSensitive, .empty⟩

/-- The definition of a type, empty where nothing is declared. -/
def get (registry : Registry) (entityType : String) : Definition :=
  (registry.definitions.find? entityType).getD registry.blank

def isRegistered (registry : Registry) (entityType : String) : Bool :=
  !(registry.get entityType).isEmpty

/-- The types with a field, in order of their first declaration. -/
def types (registry : Registry) : List String :=
  (registry.definitions.rows.filter fun row => !row.2.isEmpty).map Prod.fst

def resolve (registry : Registry) (entityType qualifier : String) : Option (String × Field) :=
  (registry.get entityType).resolve qualifier

def withType (registry : Registry) (entityType : String) : Registry :=
  if registry.definitions.contains entityType then registry
  else { registry with definitions := registry.definitions.insert entityType registry.blank }

/-- Declares a field of a type, in place of one that has its name. -/
def declare (registry : Registry) (entityType name : String) (field : Field) : Registry :=
  { registry with
    definitions := registry.definitions.insert entityType
      ((registry.get entityType).declare name field) }

/-- A text that can name a type. -/
def checkEntityType (entityType : Value) : Except Failure String :=
  match entityType with
  | .str text => if text.isEmpty then .error (.definition .entityType) else .ok text
  | _ => .error (.definition .entityType)

/-- A field with an extractor of its own. What is no extractor is refused after the name. -/
def checkField (name : Value) (rule? : Option Extractor) (inFullText : Bool) :
    Except Failure (String × Field) := do
  let name ← checkFieldName name
  match rule? with
  | some rule => return (name, ⟨.extractor rule, inFullText⟩)
  | none => throw (.definition (.notExtractor name))

/-- An alias under a name that is no field of the full text. -/
def checkAlias (registry : Registry) (entityType : String) (name target : Value) :
    Except Failure (String × Field) := do
  let target ← checkFieldName target
  let _ ← name.key
  match name with
  | .str text =>
      match (registry.get entityType).fields.find? text with
      | some present =>
          if present.aliasOf?.isNone && present.inFullText then
            throw (.definition (.hidesField text entityType))
      | none => pure ()
  | _ => pure ()
  let name ← checkFieldName name
  return (name, ⟨.alias entityType target, false⟩)

/-- Declares a checked field. A refused one leaves the type's place in the order. -/
def declareChecked (registry : Registry) (entityType : Value)
    (check : Registry → String → Except Failure (String × Field)) :
    Except Failure (String × Field) × Registry :=
  match checkEntityType entityType with
  | .error failure => (.error failure, registry)
  | .ok entityType =>
      let opened := registry.withType entityType
      match check opened entityType with
      | .error failure => (.error failure, opened)
      | .ok (name, field) => (.ok (name, field), opened.declare entityType name field)

def defineField (registry : Registry) (entityType name : Value) (rule? : Option Extractor)
    (inFullText : Bool) : Except Failure (String × Field) × Registry :=
  registry.declareChecked entityType fun _ _ => checkField name rule? inFullText

/-- Declares an alias of a field or attribute. -/
def defineQualifier (registry : Registry) (entityType name target : Value) :
    Except Failure (String × Field) × Registry :=
  registry.declareChecked entityType fun opened entityType =>
    opened.checkAlias entityType name target

/-- Declares a field of the definition of a type; a type that has none keeps nothing of it. -/
def defineOn (registry : Registry) (entityType : String) (name : Value)
    (rule? : Option Extractor) (inFullText : Bool) :
    Except Failure (String × Field) × Registry :=
  match checkField name rule? inFullText with
  | .error failure => (.error failure, registry)
  | .ok (name, field) =>
      (.ok (name, field),
        if registry.definitions.contains entityType then registry.declare entityType name field
        else registry)

/-- Declares every field of one type for another; a type that has no definition keeps none. -/
def merge (registry : Registry) (entityType source : String) : Registry :=
  if registry.definitions.contains entityType then
    { registry with
      definitions := registry.definitions.insert entityType
        ((registry.get entityType).merge (registry.get source)) }
  else registry

variable {m : Type → Type} {ρ : Type} [Monad m] [MonadLiftT (Except Failure) m]
  [MonadExceptOf Failure m]

/-- What a field gives for a record. An alias runs the extractor that its target has in the
alias's own definition; a target that is no such field is read as a plain attribute. -/
def extractValue (registry : Registry) (reader : RecordReader m ρ) (record : ρ) (field : Field) :
    m Value :=
  match field.source with
  | .extractor rule => rule.run reader record
  | .alias home target =>
      match ((registry.get home).fields.find? target).bind Field.rule? with
      | some rule => rule.run reader record
      | none => pure ((reader.snapshot record).get target .nothing)

end Registry

end ShadowIndex
