import ShadowIndex.Value.ErrorText

/-!
Contract: the two written forms of a value.

Owns:
- `Value.literal`, the form that shows the type: strings quoted, members between brackets;
- `Value.plain`, the form for a reader: strings and paths as they are, an error by its
  message, and any other value as its literal.

Does not own: which form a message uses.
-/

set_option autoImplicit false

namespace ShadowIndex

def Id.text : Id → String
  | .int whole => toString whole
  | .str text => text

def Ref.text (target : Ref) : String := target.entityType ++ "#" ++ target.id.text

namespace Value

mutual

/-- The form that shows the type of a value. -/
def literal : Value → String
  | .nothing => "None"
  | .bool truth => if truth then "True" else "False"
  | .int whole => toString whole
  | .float number => number.text
  | .str text => Text.quoted text
  | .bytes octets => "b" ++ Text.quotedOctets octets
  | .buffer octets => "bytearray(b" ++ Text.quotedBuffer octets ++ ")"
  | .list items => "[" ++ joinWith ", " (literals items) ++ "]"
  | .tuple items => tupled (literals items)
  | .set items => if items.isEmpty then "set()" else braced (joinWith ", " (literals items))
  | .frozenset items =>
      if items.isEmpty then "frozenset()"
      else "frozenset(" ++ braced (joinWith ", " (literals items)) ++ ")"
  | .map pairs => braced (joinWith ", " (literalPairs pairs))
  | .path text => "PosixPath(" ++ Text.quoted text ++ ")"
  | .error kind arguments _ =>
      kind ++ "("
        ++ joinWith ", " ((literals arguments).take (ErrorText.shownCount kind arguments)) ++ ")"
  | .range first last step =>
      let bounds := [toString first, toString last]
      "range(" ++ joinWith ", " (if step = 1 then bounds else bounds ++ [toString step]) ++ ")"
  | .stream .. => "<generator object>"
  | .ref target =>
      "RecordRef(entity_type=" ++ Text.quoted target.entityType ++ ", record_id="
        ++ (match target.id with
            | .int whole => toString whole
            | .str text => Text.quoted text) ++ ")"
  | .record target fields =>
      "RecordSnapshot(" ++ target.text ++ ", " ++ braced (joinWith ", " (literalPairs fields))
        ++ ")"
  | .object _ form => form

def literals : List Value → List String
  | [] => []
  | item :: rest => literal item :: literals rest

def literalPairs : List (Value × Value) → List String
  | [] => []
  | (key, item) :: rest => (literal key ++ ": " ++ literal item) :: literalPairs rest

end

/-- The form for a reader of a value that is no error. -/
def plainValue : Value → String
  | .str text => text
  | .path text => text
  | .ref target => target.text
  | item => item.literal

/-- The arguments of an error, with their literals and the given plain forms. -/
def argumentsOf (arguments : List Value) (plains : List String) : List Argument :=
  (arguments.zip ((literals arguments).zip plains)).map fun (value, literal, plain) =>
    ⟨value, literal, plain⟩

mutual

/-- The form of a value for a reader. -/
def plain : Value → String
  | .error kind arguments _ => ErrorText.message kind (argumentsOf arguments (plains arguments))
  | .nothing => "None"
  | .bool truth => if truth then "True" else "False"
  | item => plainValue item

def plains : List Value → List String
  | [] => []
  | item :: rest => plain item :: plains rest

end

end Value

end ShadowIndex
