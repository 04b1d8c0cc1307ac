import ShadowIndex.Schema.SearchTexts
import ShadowIndex.Value.Slot

/-!
Contract: entries of the index, each the shadow of one record.

Owns:
- `Entry`: its owner, its texts, and whether they may be out of date;
- placeholders, freshly built entries, and their stale copies;
- the checks of values from which entries and reindex reports are made.

Does not own: where entries are kept.
-/

set_option autoImplicit false

namespace ShadowIndex

/-- What is kept for an owner. `built` tells whether the texts were ever built; `stale` whether
the record may have changed since. -/
structure Content where
  fullText : String
  fieldTexts : Table String String
  stale : Bool
  built : Bool

/-- The content of an entry that was never built. -/
def Content.placeholder : Content := ⟨"", .empty, true, false⟩

instance : Inhabited Content := ⟨.placeholder⟩

/-- The content of an entry with texts that were just built. -/
def Content.ofTexts (texts : SearchTexts) : Content := ⟨texts.full, texts.fields, false, true⟩

def Content.asStale (content : Content) : Content := { content with stale := true }

structure Entry where
  owner : Ref
  content : Content
deriving Inhabited

namespace Entry

def asStale (entry : Entry) : Entry := { entry with content := entry.content.asStale }

def fieldText? (entry : Entry) (name : String) : Option String :=
  entry.content.fieldTexts.find? name

/-! ## Checks -/

def checkOwner (entityType id : Value) : Checked Ref :=
  (Checked.both (entityType.checkName ["owner_type"]) (id.checkId ["owner_id"])).map fun parts =>
    ⟨parts.1, parts.2⟩

/-- A stale entry without texts. -/
def placeholder (entityType id : Value) : Checked Entry :=
  (checkOwner entityType id).map fun owner => ⟨owner, .placeholder⟩

/-- What is checked for an entry, as reports name it. -/
def subject : String := "IndexEntry"

/-- A name as a location shows it. -/
def nameText : Value → String
  | .str text => text
  | .bool truth => toString truth.toInt
  | name => name.literal

/-- Texts of fields, by name. -/
def checkFieldTexts (pairs : List (Value × Value)) : Checked (Table String String) :=
  let location (name : Value) : List String := ["qualifier_texts", nameText name]
  let checkPair (pair : Value × Value) : Checked (String × String) :=
    Checked.both (pair.1.checkText (location pair.1 ++ ["[key]"]))
      (pair.2.checkText (location pair.1))
  (Checked.all checkPair pairs).map Table.ofList

def indexed (entityType id fullText : Value) (texts : List (Value × Value)) : Checked Entry :=
  (Checked.both (checkOwner entityType id)
    (Checked.both (fullText.checkText ["full_text"]) (checkFieldTexts texts))).map fun parts =>
      ⟨parts.1, ⟨parts.2.1, parts.2.2, false, true⟩⟩

/-- A named value that must be there. -/
def requiredField {α : Type} (fields : Fields) (name : String)
    (check : List String → Value → Checked α) : Checked α :=
  match fields.find? name with
  | some value => check [name] value
  | none => .wrong [name] .missing (.map (Fields.pairs fields))

/-- A named value with a default. -/
def optionalField {α : Type} (fields : Fields) (name : String) (default : α)
    (check : List String → Value → Checked α) : Checked α :=
  match fields.find? name with
  | some value => check [name] value
  | none => .ok default

/-- An entry from named values; names that an entry does not have are ignored. -/
def ofFields (fields : Fields) : Checked Entry :=
  let owner := Checked.both
    (requiredField fields "owner_type" fun location value => value.checkName location)
    (requiredField fields "owner_id" fun location value => value.checkId location)
  let fullText := optionalField fields "full_text" "" fun location value =>
    value.checkText location
  let fieldTexts := optionalField fields "qualifier_texts" .empty fun location value =>
    match value with
    | .map pairs => checkFieldTexts pairs
    | other => .wrong location .notMap other
  let stale := optionalField fields "stale" true fun location value => value.checkTruth location
  let built := optionalField fields "indexed_at" false fun location value =>
    value.checkTime location
  (Checked.both owner (Checked.both (Checked.both fullText fieldTexts)
    (Checked.both stale built))).map fun parts =>
      ⟨⟨parts.1.1, parts.1.2⟩, ⟨parts.2.1.1, parts.2.1.2, parts.2.2.1, parts.2.2.2⟩⟩

/-- Gives an entry a value for a name. An entry does not change; a name that starts with an
underscore is not one of its own, and what it is given leaves the entry as it is. -/
def assign (entry : Entry) (name : String) (value : Value) : Except Failure Entry :=
  if name.toList.head? = some '_' then (value.checkSlot name).map fun _ => entry
  else .error (.invalid subject [⟨[name], .frozen, value⟩])

end Entry

/-! ## Reports -/

/-- The outcome of a batch: the ids rebuilt, removed and failed. -/
structure Report where
  entityType : String
  reindexed : List Id
  removed : List Id
  failed : List Id
deriving DecidableEq, Repr, Inhabited

namespace Report

def isNoop (report : Report) : Bool :=
  report.reindexed.isEmpty && report.removed.isEmpty && report.failed.isEmpty

def isOk (report : Report) : Bool := report.failed.isEmpty

/-- What is checked for a report, as reports on checks name it. -/
def subject : String := "ReindexReport"

/-- A list of ids, from any sequence. -/
def checkIds (location : List String) (value : Value) : Checked (List Id) :=
  let checkMembers (members : List Value) : Checked (List Id) :=
    Checked.all (fun member => member.1.checkId (location ++ [toString member.2]))
      members.zipIdx
  match value with
  | .list members | .tuple members | .set members | .frozenset members | .stream members _ =>
      checkMembers members
  | .range first last step => checkMembers ((Value.rangeMembers first last step).map Value.int)
  | other => .wrong location .notList other

/-- The datum that a value stands for as a duration, and what is wrong where it stands for none. -/
def durationOf (value : Value) : Except IssueKind Binary64 :=
  let ofText (text : Option String) : Except IssueKind Binary64 :=
    match text.bind Text.Numeral.readFloat? with
    | some number => .ok number
    | none => .error .notNumberText
  match value with
  | .bool truth => .ok (.ofRatio false truth.toNat 1)
  | .int whole =>
      match Binary64.ofRatio (decide (whole < 0)) whole.natAbs 1 with
      | .infinite _ => .error .notNumber
      | number => .ok number
  | .float number => .ok number
  | .str text => ofText (some text)
  | .bytes octets => ofText (Text.Utf8.decodeExact? octets)
  | _ => .error .notNumber

/-- A duration in seconds, which is not below zero; what is not a number is none. -/
def checkDuration (location : List String) (value : Value) : Checked Unit :=
  match durationOf value with
  | .error kind => .wrong location kind value
  | .ok number =>
      match number.compareInt? 0 with
      | some .eq | some .gt => .ok ()
      | _ => .wrong location .negativeNumber value

def ofFields (fields : Fields) : Checked Report :=
  let ids (name : String) : Checked (List Id) := Entry.optionalField fields name [] checkIds
  let entityType := Entry.requiredField fields "entity_type" fun location value =>
    value.checkText location
  let duration := Entry.optionalField fields "elapsed_seconds" () checkDuration
  (Checked.both (Checked.both entityType (ids "reindexed"))
    (Checked.both (Checked.both (ids "removed") (ids "failed")) duration)).map fun parts =>
      ⟨parts.1.1, parts.1.2, parts.2.1.1, parts.2.1.2⟩

end Report

end ShadowIndex
