import ShadowIndex.Failure
import ShadowIndex.Value.Equality

/-!
Contract: values as keys of tables.

Owns:
- `Key`, one representative of each class of equal values that can be keys;
- `Value.key`, the key of a value, and its refusal of values that can change.

Does not own: the tables.
-/

set_option autoImplicit false

namespace ShadowIndex

/-- A class of equal values. Numbers that equal an integer are the key of that integer; what is
neither an integer nor a text is told apart by its written form, and what equals nothing else by
its mark. -/
inductive Key where
  | int (whole : Int)
  | str (text : String)
  | other (form : String)
deriving DecidableEq, Repr, Inhabited

def Id.key : Id → Key
  | .int whole => .int whole
  | .str text => .str text

namespace Key

def id? : Key → Option Id
  | .int whole => some (.int whole)
  | .str text => some (.str text)
  | .other _ => none

@[simp] theorem id?_key (id : Id) : id.key.id? = some id := by
  cases id <;> rfl

end Key

theorem Id.key_injective {left right : Id} (same : left.key = right.key) : left = right := by
  cases left <;> cases right <;> simp_all [Id.key]

namespace Value

/-- The form of what is told apart by a mark. -/
def markForm (noun : String) (mark : Nat) : String := "<" ++ noun ++ " " ++ toString mark ++ ">"

def floatForm (number : Binary64) : String :=
  match number, number.toInt? with
  | _, some whole => toString whole
  | .nan payload, none => markForm number.text payload
  | _, none => number.text

/-- The form of a range: its size, its first member if there is one, and its step if there is a
second one. -/
def rangeForm (first last step : Int) : String :=
  let size := rangeSize first last step
  "range" ++ tupled (toString size :: ([toString first, toString step].take size))

/-- The written form of a key: equal numbers and equal sets are written alike. -/
def scalarForm : Value → String
  | .bool truth => toString truth.toInt
  | .int whole => toString whole
  | .float number => floatForm number
  | .range first last step => rangeForm first last step
  | .error kind _ mark => markForm kind mark
  | .stream _ mark => markForm "stream" mark
  | item => item.literal

mutual

def keyForm : Value → String
  | .tuple items => tupled (keyForms items)
  | .frozenset items => braced (joinWith ", " ((keyForms items).mergeSort (· ≤ ·)))
  | item => scalarForm item

def keyForms : List Value → List String
  | [] => []
  | item :: rest => keyForm item :: keyForms rest

end

mutual

/-- The first value within a value that can change, and so keeps it from being a key. -/
def changeable? : Value → Option Value
  | .tuple items => firstChangeable? items
  | .frozenset items => firstChangeable? items
  | .list items => some (.list items)
  | .buffer octets => some (.buffer octets)
  | .set items => some (.set items)
  | .map pairs => some (.map pairs)
  | .record target fields => some (.record target fields)
  | _ => none

def firstChangeable? : List Value → Option Value
  | [] => none
  | item :: rest => (changeable? item).or (firstChangeable? rest)

end

def key (item : Value) : Except Failure Key :=
  match item with
  | .int whole => .ok (.int whole)
  | .str text => .ok (.str text)
  | .bool truth => .ok (.int truth.toInt)
  | .float number =>
      match number.toInt? with
      | some whole => .ok (.int whole)
      | none => .ok (.other (floatForm number))
  | item =>
      match changeable? item with
      | some held => .error (.unhashable held.typeName)
      | none => .ok (.other item.keyForm)

@[simp] theorem key_value (id : Id) : id.value.key = .ok id.key := by
  cases id <;> rfl

end Value

end ShadowIndex
