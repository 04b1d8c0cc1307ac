import ShadowIndex.Record.Member
import ShadowIndex.Record.Reading
import ShadowIndex.Value.ErrorArguments

/-!
Contract: extractors, which give the value that a field contributes for a record.

Owns:
- `Extractor`: any function of the record itself, and any way to read its associates;
- `Extractor.run`, what it gives for a record that is seen in some way.

Does not own: the text of an extracted value.
-/

set_option autoImplicit false

namespace ShadowIndex

/-- An extractor: a function of the record itself, the named attributes of its associates along a
relation, or any other way to read the record and what relations reach from it. -/
inductive Extractor where
  | own (read : Snapshot → Except Failure Value)
  | association (relation : String) (names : List String)
  | reading (read : Snapshot → Reading)
deriving Inhabited

namespace Extractor

/-! ## Functions of the record itself -/

/-- The named attributes of a snapshot; an absent one is nothing. -/
def readAttributes (names : List String) (snapshot : Snapshot) : Value :=
  .list (names.map fun name => snapshot.get name .nothing)

def attributes (names : List String) : Extractor :=
  own fun snapshot => .ok (readAttributes names snapshot)

def constant (value : Value) : Extractor := own fun _ => .ok value

/-- An attribute that has to be a text. -/
def requiredText (name : String) : Extractor :=
  own fun snapshot =>
    match snapshot.get name .nothing with
    | .str text => .ok (.str text)
    | _ => .error (.raised "ValueError" [])

def item (name : String) : Extractor := own fun snapshot => snapshot.item name

def member (name : String) : Extractor := own fun snapshot => snapshot.member name

def whole : Extractor := own fun snapshot => .ok snapshot.toValue

/-- Raises an error, or what keeps one from being made of the arguments. -/
def failing (kind : String) (arguments : List Value) : Extractor :=
  own fun _ =>
    match Value.errorOf kind arguments 0 with
    | .ok (.error kind arguments _) => .error (.raised kind arguments)
    | .ok item => .ok item
    | .error failure => .error failure

/-! ## Ways to read associates -/

/-- An attribute of the first associate; without one it is nothing. -/
def associate (relation name : String) : Extractor :=
  reading fun _ => .of relation fun found =>
    found.head?.elim .nothing fun other => other.get name .nothing

/-- An attribute of the associates of each associate. -/
def nested (outer inner name : String) : Extractor :=
  reading fun _ => .follow 0 outer fun found =>
    .each inner (fun reached => .list (reached.map fun far => far.get name .nothing))
      (List.range' 1 found.length) []

/-- The associates themselves. -/
def records (relation : String) : Extractor :=
  reading fun _ => .of relation fun found => .list (found.map Snapshot.toValue)

/-! ## Checked extractors -/

/-- An extractor of at least one attribute. -/
def ofAttributes (names : List String) : Except Failure Extractor :=
  if names.isEmpty then .error (.definition .noAttributes) else .ok (attributes names)

/-- An extractor of at least one attribute behind a relation. -/
def ofAssociation (relation : String) (names : List String) : Except Failure Extractor :=
  if names.isEmpty then .error (.definition .noAssociationAttributes)
  else .ok (association relation names)

/-! ## Extraction -/

variable {m : Type → Type} {ρ : Type} [Monad m] [MonadLiftT (Except Failure) m]
  [MonadExceptOf Failure m]

def run (reader : RecordReader m ρ) (record : ρ) : Extractor → m Value
  | own read => liftM (read (reader.snapshot record))
  | association relation names => do
      let associates ← reader.associated record relation
      return .list (associates.map fun other => readAttributes names (reader.snapshot other))
  | reading read => (read (reader.snapshot record)).run reader record []

end Extractor

end ShadowIndex
