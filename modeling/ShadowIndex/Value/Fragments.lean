import ShadowIndex.Text.Utf8
import ShadowIndex.Value.Printer

/-!
Contract: the text fragments of a value.

Owns: `Value.fragments`. Nothing gives no fragment; a string is one, octets are one after
decoding, a map is one in its printed form; a sequence gives the fragments of its members, at
any depth; any other value gives its plain form.

Does not own: how fragments are joined.
-/

set_option autoImplicit false

namespace ShadowIndex.Value

mutual

def fragments : Value → List String
  | .nothing => []
  | .str text => [text]
  | .bytes octets => [Text.Utf8.decode octets]
  | .buffer octets => [Text.Utf8.decode octets]
  | .list items => allFragments items
  | .tuple items => allFragments items
  | .stream items _ => allFragments items
  | .set items => allFragments items
  | .frozenset items => allFragments items
  | .range first last step => (rangeMembers first last step).map toString
  | item => [item.plain]

def allFragments : List Value → List String
  | [] => []
  | item :: rest => fragments item ++ allFragments rest

end

end ShadowIndex.Value
