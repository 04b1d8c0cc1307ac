import ShadowIndex.Value.Key

/-!
Contract: integers, sets, maps and ranges made from their parts.

Owns:
- `Value.intOf`, which reads digits up to a limit;
- `Value.setOf` and `Value.mapOf`, which refuse members and keys that can change;
- `Value.rangeOf`, which takes one, two or three integers.

Does not own: when values are equal.
-/

set_option autoImplicit false

namespace ShadowIndex.Value

/-- The most digits that are read as an integer. -/
def mostDigits : Nat := 4300

/-- The integer of a text in digits; what is no such text stands for zero. -/
def intOf (text : String) : Except Failure Value :=
  let given := (text.toList.filter Char.isDigit).length
  if mostDigits < given then .error (.tooManyDigits given)
  else .ok (.int (text.toInt?.getD 0))

/-- The members of a set, each of which has to be a key. -/
def membersOf (items : List Value) : Except Failure (List Value) := do
  let _ ← items.mapM key
  return setMembers items

def setOf (items : List Value) : Except Failure Value := (membersOf items).map set

def frozensetOf (items : List Value) : Except Failure Value := (membersOf items).map frozenset

/-- A map of pairs. A list in the place of a key stands for a tuple. -/
def mapOf (pairs : List (Value × Value)) : Except Failure Value := do
  let rows := pairs.map fun pair =>
    match pair.1 with
    | .list items => (.tuple items, pair.2)
    | _ => pair
  let _ ← rows.mapM fun row => row.1.key
  return .map (distinctPairs rows)

/-- The integer that bounds a range. -/
def boundOf (item : Value) : Except Failure Int :=
  match item with
  | .int whole => .ok whole
  | .bool truth => .ok truth.toInt
  | item => .error (.use item.typeName .integer)

/-- A range from its end, from its two bounds, or from bounds and step. -/
def rangeOf (arguments : List Value) : Except Failure Value := do
  if arguments.isEmpty then throw (.range .tooFew)
  if 3 < arguments.length then throw (.range (.tooMany arguments.length))
  match ← arguments.mapM boundOf with
  | [first, last] => return .range first last 1
  | [first, last, step] => if step = 0 then throw (.range .zeroStep) else return .range first last step
  | bounds => return .range 0 (bounds.headD 0) 1

end ShadowIndex.Value
