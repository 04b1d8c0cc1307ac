import ShadowIndex.Failure
import ShadowIndex.Text.JsonObject
import ShadowIndex.Value.Order

/-!
Contract: values in JSON.

Owns:
- `Value.simplified`, what stands for a value that JSON does not know: a set is the list of its
  members in order, octets are their text, paths and errors to be handled their plain form, and
  any other value its literal;
- `Value.json`, the text of a value without blanks. Integers have to fit in 64 bits, and keys
  have to be strings; a number that is not finite is null.

Does not own: which values are written.
-/

set_option autoImplicit false

namespace ShadowIndex.Value

/-- The text that stands for a value that is neither a number, nor a string, nor a collection. -/
def standIn : Value → String
  | .bytes octets | .buffer octets => Text.Utf8.decode octets
  | .path text => text
  | .error kind arguments mark =>
      let error := Value.error kind arguments mark
      if ErrorText.endingKinds.contains kind then error.literal else error.plain
  | item => item.literal

def simplified : Value → Value
  | .set items | .frozenset items => .list ((sortBy? id items).getD items)
  | item => .str item.standIn

def fitsJson (whole : Int) : Bool := decide (-(2 ^ 63) ≤ whole) && decide (whole < 2 ^ 64)

def floatJson (number : Binary64) : String :=
  match number with
  | .finite .. => number.textIn Decimal.jsonStyle
  | _ => "null"

def bracketed (texts : List String) : String := "[" ++ joinWith "," texts ++ "]"

/-- The texts of a set's members, in the order of the members if they have one. -/
def arranged (items : List Value) (texts : List String) : List String :=
  let rows := items.zip texts
  ((sortBy? Prod.fst rows).getD rows).map Prod.snd

mutual

def json : Value → Except Failure String
  | .nothing => .ok "null"
  | .bool truth => .ok (if truth then "true" else "false")
  | .int whole => if fitsJson whole then .ok (toString whole) else .error .jsonInteger
  | .float number => .ok (floatJson number)
  | .str text => .ok (Text.Json.quoted text)
  | .list items | .tuple items => (jsonAll items).map bracketed
  | .set items | .frozenset items => (jsonAll items).map fun texts => bracketed (arranged items texts)
  | .map pairs => (jsonPairs pairs).map fun texts => braced (joinWith "," texts)
  | item => .ok (Text.Json.quoted item.standIn)

def jsonAll : List Value → Except Failure (List String)
  | [] => .ok []
  | item :: rest => do
      let text ← json item
      let texts ← jsonAll rest
      return text :: texts

def jsonPairs : List (Value × Value) → Except Failure (List String)
  | [] => .ok []
  | (.str key, item) :: rest => do
      let text ← json item
      let texts ← jsonPairs rest
      return (Text.Json.quoted key ++ ":" ++ text) :: texts
  | _ => .error .jsonKey

end

/-- Named strings are written as an object of strings. -/
theorem json_strings (rows : List (String × String)) :
    json (.map (rows.map fun row => (.str row.1, .str row.2))) = .ok (Text.Json.object rows) := by
  have members : jsonPairs (rows.map fun row => (.str row.1, .str row.2)) =
      .ok (rows.map Text.Json.member) := by
    induction rows with
    | nil => rfl
    | cons row rows inductionHypothesis =>
        simp only [List.map_cons, jsonPairs, json, inductionHypothesis]
        rfl
  rw [json, members]
  rfl

end ShadowIndex.Value
