import ShadowIndex.Record.Snapshot

/-!
Contract: the members of a snapshot, what it has under names besides its fields.

Owns:
- `Snapshot.own?`, the members that every snapshot has: what names the record, its functions, and
  what describes its type;
- `Snapshot.member`, in which these come before fields, and no field that starts with an underscore
  is a member.

Does not own: the fields.
-/

set_option autoImplicit false

namespace ShadowIndex.Snapshot

/-- The names of functions, with the type that defines them. -/
def functions : List (String × List String) :=
  [("Mapping", ["get", "keys", "items", "values", "__contains__", "__eq__"]),
   ("RecordSnapshot",
     ["associated", "associate", "__getitem__", "__iter__", "__len__", "__getattr__", "__repr__",
      "__init__"])]

/-- A function of a snapshot, known by its written form. -/
def function (snapshot : Snapshot) (home name : String) : Value :=
  .object "method"
    ("<bound method " ++ home ++ "." ++ name ++ " of " ++ snapshot.toValue.literal ++ ">")

def moduleName : String := "record_search.domain.model"

def partNames : List String := ["_fields", "_resolver", "ref"]

/-- The type of snapshots, known by its written form. -/
def typeObject (snapshot : Snapshot) : Value :=
  .object "ABCMeta" ("<class '" ++ moduleName ++ "." ++ snapshot.toValue.typeName ++ "'>")

/-- What a snapshot has besides functions. -/
def details (snapshot : Snapshot) : List (String × Value) :=
  [("ref", .ref snapshot.ref), ("record_id", snapshot.ref.id.value),
   ("entity_type", .str snapshot.ref.entityType),
   ("_fields", .map (Fields.pairs snapshot.fields)), ("_resolver", .nothing),
   ("__class__", snapshot.typeObject),
   ("__module__", .str moduleName), ("__slots__", .tuple (partNames.map Value.str)),
   ("__hash__", .nothing), ("__reversed__", .nothing), ("__abstractmethods__", .frozenset [])]

/-- The member that every snapshot has under a name. -/
def own? (snapshot : Snapshot) (name : String) : Option Value :=
  match snapshot.details.lookup name with
  | some value => some value
  | none =>
      (functions.find? fun row => row.2.contains name).map fun row =>
        snapshot.function row.1 name

def member (snapshot : Snapshot) (name : String) : Except Failure Value :=
  match snapshot.own? name with
  | some value => .ok value
  | none =>
      if name.toList.head? = some '_' then .error (.hiddenField name)
      else
        match snapshot.fields.find? name with
        | some value => .ok value
        | none => .error (.noField snapshot.ref name)

end ShadowIndex.Snapshot
