import ShadowIndex.Failure
import ShadowIndex.Table
import ShadowIndex.Value.Key

/-!
Contract: snapshots of records, and the records that relations reach from them.

Owns:
- `Ref.check`, a reference built from values;
- `Snapshot`, the fields of one record at one time, and the ways to read a field by its name;
- `RecordReader`, how records of some kind are seen: their snapshot and their associates.

Does not own: where records are kept.
-/

set_option autoImplicit false

namespace ShadowIndex

/-- What is checked for a reference, as reports name it. -/
def Ref.subject : String := "RecordRef"

/-- A reference built from values: a type with at least one character, and an id. -/
def Ref.check (entityType id : Value) : Checked Ref :=
  (Checked.both (entityType.checkName ["0"]) (id.checkId ["1"])).map fun parts =>
    ⟨parts.1, parts.2⟩

abbrev Fields := Table String Value

def Fields.pairs (fields : Fields) : List (Value × Value) :=
  fields.rows.map fun row => (.str row.1, row.2)

/-- A record as it was when it was read. -/
structure Snapshot where
  ref : Ref
  fields : Fields
deriving Inhabited

namespace Snapshot

def toValue (snapshot : Snapshot) : Value := .record snapshot.ref (Fields.pairs snapshot.fields)

def get (snapshot : Snapshot) (name : String) (default : Value) : Value :=
  (snapshot.fields.find? name).getD default

/-- The value of a field that has to be there. -/
def item (snapshot : Snapshot) (name : String) : Except Failure Value :=
  match snapshot.fields.find? name with
  | some value => .ok value
  | none => .error (.missingField name)

def hasField (snapshot : Snapshot) (name : Value) : Except Failure Bool :=
  match name with
  | .str name => .ok (snapshot.fields.contains name)
  | name => name.key.map fun _ => false

/-- Equality with fields, in any order. -/
def sameFields (snapshot : Snapshot) (fields : Fields) : Bool :=
  Value.same (.map (Fields.pairs snapshot.fields)) (.map (Fields.pairs fields))

end Snapshot

/-- How computations in `m` see records of type `ρ`. -/
structure RecordReader (m : Type → Type) (ρ : Type) where
  snapshot : ρ → Snapshot
  associated : ρ → String → m (List ρ)

/-- How records are seen where a relation always reaches the same from the same record. -/
abbrev RecordView (ρ : Type) := RecordReader (Except Failure) ρ

/-- The record that a relation reaches first, if it reaches any. -/
def RecordReader.associate? {m : Type → Type} [Functor m] {ρ : Type} (reader : RecordReader m ρ)
    (record : ρ) (relation : String) : m (Option ρ) :=
  List.head? <$> reader.associated record relation

/-- A record whose associates are spelled out, relation by relation. -/
inductive RecordTree where
  | node (snapshot : Snapshot) (associates : List (String × List RecordTree))
deriving Inhabited

namespace RecordTree

def snapshot : RecordTree → Snapshot
  | node snapshot _ => snapshot

/-- What a relation reaches, as it was given last; an unknown relation reaches nothing. -/
def associates : RecordTree → String → List RecordTree
  | node _ associates, relation => (associates.reverse.lookup relation).getD []

def view : RecordView RecordTree where
  snapshot := RecordTree.snapshot
  associated := fun record relation => .ok (record.associates relation)

end RecordTree

end ShadowIndex
