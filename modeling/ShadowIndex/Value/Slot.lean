import ShadowIndex.Value.Printer
import ShadowIndex.Failure

/-!
Contract: the two names under which every object holds what it is, its type and its fields.

Owns: `Value.checkSlot`, which refuses a value that cannot stand under one of them.

Does not own: any other name.
-/

set_option autoImplicit false

namespace ShadowIndex.Value

/-- No value is a type, and only a map holds fields. -/
def checkSlot (name : String) (value : Value) : Except Failure Unit :=
  match name, value with
  | "__class__", value => .error (.use value.typeName .notType)
  | "__dict__", .map _ => .ok ()
  | "__dict__", value => .error (.use value.typeName .notFields)
  | _, _ => .ok ()

end ShadowIndex.Value
