import ShadowIndex.Action
import ShadowIndex.Schema.Registry
import ShadowIndex.Value.Fragments
import ShadowIndex.Value.Stream

/-!
Contract: the search texts of a record.

Owns:
- `SearchTexts`, the full text and the text of each field;
- their construction in one pass, and each of them alone.

Does not own: when texts are built, or where they are kept.
-/

set_option autoImplicit false

namespace ShadowIndex

/-- The fragments of a value as it reads now. -/
def Value.drawFragments (value : Value) : Action Streams (List String) := fun streams =>
  let drawn := value.draw streams
  (.ok drawn.1.fragments, drawn.2)

structure SearchTexts where
  full : String
  fields : Table String String

instance : Inhabited SearchTexts := ⟨⟨"", .empty⟩⟩

namespace Registry

variable {m : Type → Type} {ρ : Type} [Monad m] [MonadLiftT (Except Failure) m]
  [MonadExceptOf Failure m] [MonadLiftT m (Action Streams)]

/-- The fragments of one field. -/
def extract (registry : Registry) (reader : RecordReader m ρ) (record : ρ) (field : Field) :
    Action Streams (List String) := do
  let value ← liftM (registry.extractValue reader record field)
  Value.drawFragments value

theorem extract_of_view (registry : Registry) (view : RecordView ρ) (record : ρ) (field : Field) :
    registry.extract view record field = (do
      let value ← Action.lift (registry.extractValue view record field)
      Value.drawFragments value) := rfl

def extractNamed (registry : Registry) (reader : RecordReader m ρ) (record : ρ)
    (row : String × Field) : Action Streams (String × Field × List String) := do
  let fragments ← registry.extract reader record row.2
  return (row.1, row.2, fragments)

/-- The texts that extracted fragments make: one for each field, and the full text from the
fields that contribute to it. -/
def textsOf (extracted : List (String × Field × List String)) : SearchTexts where
  full := Text.normalize
    ((extracted.filter fun row => row.2.1.inFullText).flatMap fun row => row.2.2)
  fields := Table.ofList (extracted.map fun row => (row.1, Text.normalize row.2.2))

/-- Both kinds of text in one pass over the fields. -/
def build (registry : Registry) (reader : RecordReader m ρ) (entityType : String) (record : ρ) :
    Action Streams SearchTexts := do
  let extracted ← Action.each (registry.extractNamed reader record)
    (registry.get entityType).fields.rows
  return textsOf extracted

/-- The full text alone: only fields that contribute to it are read. -/
def buildFullText (registry : Registry) (reader : RecordReader m ρ) (entityType : String)
    (record : ρ) : Action Streams String := do
  let extracted ← Action.each (registry.extractNamed reader record)
    (registry.get entityType).fullTextFields
  return Text.normalize (extracted.flatMap fun row => row.2.2)

def fieldText (registry : Registry) (reader : RecordReader m ρ) (record : ρ) (field : Field) :
    Action Streams String := do
  let fragments ← registry.extract reader record field
  return Text.normalize fragments

/-- The texts of all fields alone, field by field. -/
def buildFieldTexts (registry : Registry) (reader : RecordReader m ρ) (entityType : String)
    (record : ρ) : Action Streams (Table String String) := do
  let texts ← Action.each
    (fun (row : String × Field) => do
      let text ← registry.fieldText reader record row.2
      return (row.1, text))
    (registry.get entityType).fields.rows
  return Table.ofList texts

/-- The text that a qualifier selects; an unknown qualifier has an empty one. -/
def buildQualifierText (registry : Registry) (reader : RecordReader m ρ) (entityType : String)
    (record : ρ) (qualifier : String) : Action Streams String :=
  match registry.resolve entityType qualifier with
  | none => pure ""
  | some (_, field) => registry.fieldText reader record field

end Registry

end ShadowIndex
