import ShadowIndex.Value.Basic

/-!
Contract: when two values are equal.

Owns: `Value.same`. Truth values, integers and floating-point numbers are equal when their
numbers are; octets whether fixed or not; lists and tuples member by member, each among
themselves; ranges when their members are; sets and maps without regard to order; objects, such as
dates and identifiers of other kinds, when their types and their written forms are. Errors and
streams equal nothing.

Does not own: which values can be keys of a table, or numbers of other types, which can be equal
with different written forms.
-/

set_option autoImplicit false

namespace ShadowIndex.Value

/-- Whether two ranges have the same members: as many of them, with the same first one if there
is one, and the same step if there is a second one. -/
def sameRange (leftFirst leftLast leftStep first last step : Int) : Bool :=
  let size := rangeSize leftFirst leftLast leftStep
  size == rangeSize first last step
    && (size == 0 || (leftFirst == first && (size == 1 || leftStep == step)))

def sameScalar : Value → Value → Bool
  | .nothing, .nothing => true
  | .bool left, .bool right => left == right
  | .bool left, .int right => (left.toInt : Int) == right
  | .int left, .bool right => left == (right.toInt : Int)
  | .int left, .int right => left == right
  | .bool left, .float right => right.sameInt left.toInt
  | .float left, .bool right => left.sameInt right.toInt
  | .int left, .float right => right.sameInt left
  | .float left, .int right => left.sameInt right
  | .float left, .float right => left.same right
  | .str left, .str right => left == right
  | .bytes left, .bytes right | .bytes left, .buffer right
  | .buffer left, .bytes right | .buffer left, .buffer right => left == right
  | .path left, .path right => left == right
  | .ref left, .ref right => decide (left = right)
  | .range leftFirst leftLast leftStep, .range first last step =>
      sameRange leftFirst leftLast leftStep first last step
  | .object leftType left, .object rightType right => leftType == rightType && left == right
  | _, _ => false

mutual

def same : Value → Value → Bool
  | .list left, .list right => sameAll left right
  | .tuple left, .tuple right => sameAll left right
  | .set left, .set right | .set left, .frozenset right
  | .frozenset left, .set right | .frozenset left, .frozenset right =>
      left.length == right.length && eachIn left right
  | .map left, .map right | .map left, .record _ right
  | .record _ left, .map right | .record _ left, .record _ right =>
      left.length == right.length && eachPairIn left right
  | left, right => sameScalar left right

def sameAll : List Value → List Value → Bool
  | [], [] => true
  | left :: lefts, right :: rights => same left right && sameAll lefts rights
  | _, _ => false

/-- Whether every value of a list equals one of another list. -/
def eachIn : List Value → List Value → Bool
  | [], _ => true
  | left :: lefts, rights => (rights.any fun right => same left right) && eachIn lefts rights

/-- Whether every pair of a list equals one of another list. -/
def eachPairIn : List (Value × Value) → List (Value × Value) → Bool
  | [], _ => true
  | (key, item) :: lefts, rights =>
      (rights.any fun right => same key right.1 && same item right.2)
        && eachPairIn lefts rights

end

def isIn (item : Value) (items : List Value) : Bool := items.any fun other => same item other

/-- The first of each class of equal values. -/
def distinct (items : List Value) : List Value :=
  items.foldl (fun kept item => if item.isIn kept then kept else kept ++ [item]) []

/-- Integers of a set come in increasing order, other members in the order given. -/
def setOrder (items : List Value) : List Value :=
  if items.all fun item => item matches .int _ then
    items.mergeSort fun left right =>
      match left, right with
      | .int left, .int right => decide (left ≤ right)
      | _, _ => true
  else items

/-- The members of a set: each once, integers in order. -/
def setMembers (items : List Value) : List Value := setOrder (distinct items)

/-- Map pairs with one pair for each key: the first key, the last item. -/
def distinctPairs (pairs : List (Value × Value)) : List (Value × Value) :=
  pairs.foldl
    (fun kept pair =>
      if kept.any fun other => same pair.1 other.1 then
        kept.map fun other => if same pair.1 other.1 then (other.1, pair.2) else other
      else kept ++ [pair])
    []

/-- Identifiers are equal when they are the same. -/
theorem same_value_iff (left right : Id) : same left.value right.value = true ↔ left = right := by
  cases left <;> cases right <;> simp [Id.value, same, sameScalar]

end ShadowIndex.Value
