import ShadowIndex.Number.Decimal

/-!
Contract: the values that records hold and that extractors give.

Owns:
- `Id` and `Ref`, what names a record;
- `Value`, the dynamic values of a host record, of log fields and of span attributes;
- the names of their types, the size of a range, and which values count as empty.

Idealized: a text is a sequence of Unicode characters, without lone surrogates; an integer of any
size has a written form; values nest without limit.

Does not own: equality, printing, or the text that a value contributes to a search.
-/

set_option autoImplicit false

namespace ShadowIndex

/-- What names a record among those of its type. -/
inductive Id where
  | int (whole : Int)
  | str (text : String)
deriving DecidableEq, Repr, Inhabited

/-- A record of a host, by its type and id. -/
structure Ref where
  entityType : String
  id : Id
deriving DecidableEq, Repr, Inhabited

/-- A dynamic value. Errors and streams are told apart by a mark; equal arguments or items do not
make them the same. An `object`, which may be a date or an identifier of another kind, is known by
the name of its type and its written form alone. -/
inductive Value where
  | nothing
  | bool (truth : Bool)
  | int (whole : Int)
  | float (number : Binary64)
  | str (text : String)
  | bytes (octets : List UInt8)
  | buffer (octets : List UInt8)
  | list (items : List Value)
  | tuple (items : List Value)
  | set (items : List Value)
  | frozenset (items : List Value)
  | map (pairs : List (Value × Value))
  | path (text : String)
  | error (kind : String) (arguments : List Value) (mark : Nat)
  | range (first last step : Int)
  | stream (items : List Value) (mark : Nat)
  | ref (target : Ref)
  | record (target : Ref) (fields : List (Value × Value))
  | object (typeName form : String)
deriving Inhabited

namespace Id

def value : Id → Value
  | .int whole => .int whole
  | .str text => .str text

end Id

namespace Value

def isNothing : Value → Bool
  | .nothing => true
  | _ => false

def typeName : Value → String
  | .nothing => "NoneType"
  | .bool _ => "bool"
  | .int _ => "int"
  | .float _ => "float"
  | .str _ => "str"
  | .bytes _ => "bytes"
  | .buffer _ => "bytearray"
  | .list _ => "list"
  | .tuple _ => "tuple"
  | .set _ => "set"
  | .frozenset _ => "frozenset"
  | .map _ => "dict"
  | .path _ => "PosixPath"
  | .error kind .. => kind
  | .range .. => "range"
  | .stream .. => "generator"
  | .ref _ => "RecordRef"
  | .record .. => "RecordSnapshot"
  | .object typeName _ => typeName

def rangeSize (first last step : Int) : Nat :=
  let span := if 0 < step then last - first else first - last
  if step = 0 then 0 else (span.toNat + step.natAbs - 1) / step.natAbs

/-- The members of a range, from `first` on, `last` excluded. -/
def rangeMembers (first last step : Int) : List Int :=
  (List.range (rangeSize first last step)).map fun (index : Nat) => first + step * (index : Int)

/-- Whether a value counts as present in a condition: not none, zero, or empty. -/
def truthy : Value → Bool
  | .nothing => false
  | .bool truth => truth
  | .int whole => whole ≠ 0
  | .float number => !number.isZero
  | .str text => text ≠ ""
  | .bytes octets | .buffer octets => !octets.isEmpty
  | .list items | .tuple items | .set items | .frozenset items => !items.isEmpty
  | .map pairs | .record _ pairs => !pairs.isEmpty
  | .range first last step => rangeSize first last step ≠ 0
  | .path _ | .error .. | .stream .. | .ref _ | .object .. => true

end Value

end ShadowIndex
