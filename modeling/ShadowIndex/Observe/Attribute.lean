import ShadowIndex.Failure
import ShadowIndex.Table

/-!
Contract: attributes of spans and of what they are about.

Owns:
- `Attribute.cleaned`, the value that an attribute takes from a value: nothing, truth values,
  numbers, texts and octets are kept, sequences and maps are cleaned member by member, and any other
  value is its plain form;
- the attributes of a span, of which the oldest go when there are too many;
- names in the space of this library;
- the attributes of what a tracer describes.

Does not own: when attributes are set.
-/

set_option autoImplicit false

namespace ShadowIndex

namespace Attribute

/-! ## Values -/

/-- Pairs under texts: names that count as empty are dropped, and other names are their plain
form. -/
def named (pairs : List (Value × Value)) : List (Value × Value) :=
  let rows := pairs.filterMap fun pair =>
    if pair.1.truthy then some (pair.1.plain, pair.2) else none
  (Table.ofList rows).rows.map fun row => (.str row.1, row.2)

mutual

/-- The value that an attribute takes from a value. -/
def cleaned : Value → Value
  | .nothing => .nothing
  | .bool truth => .bool truth
  | .int whole => .int whole
  | .float number => .float number
  | .str text => .str text
  | .bytes octets => .bytes octets
  | .list items => .tuple (cleanedAll items)
  | .tuple items => .tuple (cleanedAll items)
  | .range first last step => .tuple ((Value.rangeMembers first last step).map Value.int)
  | .buffer octets => .tuple (octets.map fun octet => .int octet.toNat)
  | .map pairs => .map (named (cleanedPairs pairs))
  | .record _ pairs => .map (named (cleanedPairs pairs))
  | item => .str item.plain

def cleanedAll : List Value → List Value
  | [] => []
  | item :: rest => cleaned item :: cleanedAll rest

def cleanedPairs : List (Value × Value) → List (Value × Value)
  | [] => []
  | (name, item) :: rest => (name, cleaned item) :: cleanedPairs rest

end

/-- The value that an attribute of a name takes; without a name it takes nothing. -/
def valueFor (name : String) (value : Value) : Value :=
  if name = "" then .nothing else cleaned value

def ofList (attributes : List (String × Value)) : Table String Value :=
  .ofList (attributes.map fun row => (row.1, valueFor row.1 row.2))

/-! ## Attributes of a span -/

def limit : Nat := 128

/-- Attributes with room for one more: the oldest goes when there are as many as a span can have. -/
def newest (attributes : Table String Value) : Table String Value :=
  match attributes.rows with
  | [] => attributes
  | oldest :: _ =>
      if limit ≤ attributes.size then attributes.erase oldest.1 else attributes

/-- Sets an attribute, which is the newest then. -/
def put (attributes : Table String Value) (name : String) (value : Value) : Table String Value :=
  let room := if attributes.contains name then attributes.erase name else newest attributes
  room.insert name (valueFor name value)

/-- The attributes of a span from the first on. -/
def ofSpan (attributes : List (String × Value)) : Table String Value :=
  attributes.foldl (fun built row => put built row.1 row.2) .empty

/-- The space of names of this library. -/
def space : String := "record_search"

/-- A name without a point is put into the space of this library. -/
def spacedName (name : String) : String :=
  if name.toList.contains '.' then name else space ++ "." ++ name

/-- Attributes under full names; those without a value are left out. -/
def spaced (attributes : List (String × Value)) : Table String Value :=
  Table.ofList ((attributes.filter fun row => !row.2.isNothing).map fun row =>
    (spacedName row.1, row.2))

/-! ## What a tracer describes -/

def serviceName : String := "service.name"

def programName : String := "process.executable.name"

/-- The name of a service without one, which tells the program if that is known. -/
def unknownService : Option Value → Except Failure String
  | some (.str program) =>
      .ok (if program = "" then "unknown_service" else "unknown_service:" ++ program)
  | some program =>
      if program.truthy then .error (.use program.typeName .concatenation)
      else .ok "unknown_service"
  | none => .ok "unknown_service"

/-- The attributes of a service, and further ones that replace those of the same name. Without a
name it is an unknown service. -/
def ofService (name : Value) (further : List (String × Value)) :
    Except Failure (Table String Value) := do
  let given := ofList ((Table.ofList ((serviceName, name) :: further)).rows)
  if ((given.find? serviceName).map Value.truthy).getD false then return given
  return given.insert serviceName (.str (← unknownService (given.find? programName)))

/-- The attributes that a map gives under names; nothing, or what counts as nothing, gives none. -/
def ofMap : Value → Except Failure (List (String × Value))
  | .map pairs =>
      .ok (pairs.filterMap fun pair =>
        match pair.1 with
        | .str name => some (name, pair.2)
        | _ => none)
  | value => if value.truthy then .error (.notMapping value.typeName) else .ok []

/-- The function that describes a tracer, as messages name it, and its arguments. -/
def tracerName : String := "init_tracing"

def tracerArguments : List String := ["service_name", "resource_attributes"]

/-- The attributes of a tracer that is described by named values. -/
def ofTracer (given : Table String Value) : Except Failure (Table String Value) := do
  if let some name := given.keys.find? fun name => !tracerArguments.contains name then
    throw (.argument tracerName name .unexpected)
  let further ← ofMap ((given.find? "resource_attributes").getD .nothing)
  ofService ((given.find? "service_name").getD (.str "record-search")) further

end Attribute

end ShadowIndex
