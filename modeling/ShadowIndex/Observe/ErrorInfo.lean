import ShadowIndex.Value.Equality
import ShadowIndex.Value.ErrorReport

/-!
Contract: what a log record says of an error that was raised.

Owns:
- `ErrorInfo.ofError`, a row of three: the type of the error, the error, and no trace;
- `ErrorInfo.text?`, the text of such a row, which is the report of its error. Whatever counts as
  empty says that nothing was raised, and anything else is taken as a row.

Does not own: the report, or where the text stands.
-/

set_option autoImplicit false

namespace ShadowIndex.ErrorInfo

def ofError (error : Value) : Value :=
  .tuple [.object "type" ("<class '" ++ error.typeName ++ "'>"), error, .nothing]

/-- What the places of a sequence are called. -/
def placeNoun : Value → String
  | .str _ => "string index"
  | .bytes _ => "index"
  | .range .. => "range object index"
  | info => info.typeName ++ " index"

/-- The member in a place, counted from zero; a map is asked for the number of the place. -/
def member (place : Nat) (info : Value) : Except Failure Value :=
  match info with
  | .map pairs | .record _ pairs =>
      match pairs.find? fun pair => Value.same pair.1 (.int place) with
      | some pair => .ok pair.2
      | none => .error (.missingKey (.int place))
  | info =>
      match info.sequence? with
      | none => .error (.use info.typeName .subscript)
      | some items =>
          match items[place]? with
          | some item => .ok item
          | none => .error (.use info.typeName (.position (placeNoun info)))

def text? (info : Value) : Except Failure (Option String) := do
  if !info.truthy then return none
  let trace ← member 2 info
  let _ ← member 0 info
  let raised ← member 1 info
  if !trace.isNothing then throw (.noMember trace.typeName "tb_frame")
  match raised with
  | .error .. => return some (← ErrorReport.text raised)
  | .nothing => return some (raised.typeName ++ ": " ++ raised.plain)
  | raised => throw (.noMember raised.typeName "__suppress_context__")

end ShadowIndex.ErrorInfo
