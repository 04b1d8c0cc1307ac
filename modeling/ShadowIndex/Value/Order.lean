import ShadowIndex.Text.Path
import ShadowIndex.Value.Equality

/-!
Contract: the order of values, as far as they have one.

Owns:
- `Value.before?`: numbers are ordered by size, texts and octets by their units, paths by their
  parts, sequences at their first difference, sets by strict inclusion, and nothing else;
- `sortBy?`, which sorts a list unless it compares two members that have no order.

Does not own: where sorted values are shown.
-/

set_option autoImplicit false

namespace ShadowIndex

universe u

namespace Value

/-- Whether one number is smaller than another. What is not a number is before nothing. -/
def numberBefore? : Value → Value → Option Bool
  | .bool left, .bool right => some (decide (left.toInt < right.toInt))
  | .bool left, .int right => some (decide (left.toInt < right))
  | .int left, .bool right => some (decide (left < right.toInt))
  | .int left, .int right => some (decide (left < right))
  | .float left, .float right => some (left.compare? right == some .lt)
  | .float left, .int right => some (left.compareInt? right == some .lt)
  | .float left, .bool right => some (left.compareInt? right.toInt == some .lt)
  | .int left, .float right => some (right.compareInt? left == some .gt)
  | .bool left, .float right => some (right.compareInt? left.toInt == some .gt)
  | _, _ => none

mutual

/-- Whether a value comes before another, if they can be compared. -/
def before? : Value → Value → Option Bool
  | .str left, .str right => some (decide (left < right))
  | .bytes left, .bytes right | .bytes left, .buffer right
  | .buffer left, .bytes right | .buffer left, .buffer right => some (decide (left < right))
  | .path left, .path right => some (decide (Text.Path.parts left < Text.Path.parts right))
  | .list left, .list right => allBefore? left right
  | .tuple left, .tuple right => allBefore? left right
  | .set left, .set right | .set left, .frozenset right
  | .frozenset left, .set right | .frozenset left, .frozenset right =>
      some (decide (left.length < right.length) && eachIn left right)
  | left, right => numberBefore? left right

/-- The order of sequences: that of the first members that differ, or of the lengths. -/
def allBefore? : List Value → List Value → Option Bool
  | [], rights => some (!rights.isEmpty)
  | _ :: _, [] => some false
  | left :: lefts, right :: rights =>
      if same left right then allBefore? lefts rights else before? left right

end

end Value

/-- Puts an item behind every item of a sorted list that it does not come before. -/
def insert? {α : Type u} (value : α → Value) (item : α) : List α → Option (List α)
  | [] => some [item]
  | head :: rest =>
      match Value.before? (value item) (value head) with
      | none => none
      | some true => some (item :: head :: rest)
      | some false => (insert? value item rest).map (head :: ·)

/-- The items in order of their values. -/
def sortBy? {α : Type u} (value : α → Value) : List α → Option (List α)
  | [] => some []
  | item :: rest => (sortBy? value rest).bind (insert? value item)

end ShadowIndex
