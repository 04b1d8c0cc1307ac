import ShadowIndex.Failure

/-!
Contract: which arguments an error can be made of.

Owns: `Value.errorOf`, an error from the name of its kind and its arguments. A system error takes
the kind that its number stands for; errors of an encoding or a source text and groups of errors
are refused arguments that have no meaning to them.

Does not own: the texts of errors.
-/

set_option autoImplicit false

namespace ShadowIndex.Value

/-- The general kind of system errors, under all its names. -/
def systemNames : List String := ["OSError", "IOError", "EnvironmentError"]

/-- The kinds that stand for numbers of system errors. -/
def numberedKinds : List (String × List Int) :=
  [("PermissionError", [1, 13]), ("FileNotFoundError", [2]), ("ProcessLookupError", [3]),
   ("InterruptedError", [4]), ("ChildProcessError", [10]), ("BlockingIOError", [11, 114, 115]),
   ("FileExistsError", [17]), ("NotADirectoryError", [20]), ("IsADirectoryError", [21]),
   ("BrokenPipeError", [32, 108]), ("ConnectionAbortedError", [103]),
   ("ConnectionResetError", [104]), ("TimeoutError", [110]), ("ConnectionRefusedError", [111])]

/-- The kind of a system error of the general kind, by its number. -/
def systemKind (arguments : List Value) : String :=
  let general := systemNames.headD ""
  if ErrorText.isNumbered general arguments.length then
    let number := (arguments.headD .nothing).whole?
    match numberedKinds.find? fun row => number.any fun number => row.2.contains number with
    | some row => row.1
    | none => general
  else general

/-- The name of the type of an argument that is refused; nothing is called by its literal. -/
def argumentType : Value → String
  | .nothing => "None"
  | item => item.typeName

/-- Requires a text in a place, counted from one. -/
def requireText (place : Nat) (item : Value) : Except Failure Unit :=
  match item with
  | .str _ => .ok ()
  | item => .error (.errorArguments (.notText place item.argumentType))

def requireInteger (item : Value) : Except Failure Unit :=
  if item.whole?.isSome then .ok () else .error (.use item.typeName .integer)

def requireOctets : Value → Except Failure Unit
  | .bytes _ | .buffer _ => .ok ()
  | item => .error (.use item.typeName .octets)

/-- Requires the arguments of an error of an encoding, from the left. -/
def requireEncoding (kind : String) (count : Nat) (arguments : List Value) :
    Except Failure Unit := do
  if arguments.length ≠ count then
    throw (.errorArguments (.argumentCount count arguments.length))
  let item (place : Nat) : Value := arguments.getD (place - 1) .nothing
  if count = 5 then requireText 1 (item 1)
  if kind = "UnicodeDecodeError" then requireOctets (item 2)
  else requireText (count - 3) (item (count - 3))
  requireInteger (item (count - 2))
  requireInteger (item (count - 1))
  requireText count (item count)

/-- Requires the second argument of an error of a source text to be a place: a file, a line, and
two or four values more. -/
def requirePlace (place : Value) : Except Failure Unit :=
  match place.members?.map List.length with
  | none => .error (.errorArguments (.placeRequired place.typeName))
  | some count =>
      if count < 4 then .error (.errorArguments (.placeTooShort count))
      else if 6 < count then .error (.errorArguments (.placeTooLong count))
      else if count = 5 then .error (.errorArguments .placeEnd)
      else .ok ()

def errorKind? : Value → Option String
  | .error kind .. => some kind
  | _ => none

/-- The members of a group, which are errors, and one at least. -/
def groupMembers (members : Value) : Except Failure (List String) :=
  match members.sequence? with
  | none => .error (.errorArguments .groupSequence)
  | some [] => .error (.errorArguments .groupEmpty)
  | some items =>
      items.zipIdx.mapM fun (item, place) =>
        match errorKind? item with
        | some kind => .ok kind
        | none => .error (.errorArguments (.groupMember place))

/-- The kind of a group: one whose members are all there to be handled is so too. -/
def groupKind (kind : String) (arguments : List Value) : Except Failure String :=
  match arguments with
  | [name, members] => do
      match name with
      | .str _ => pure ()
      | name => throw (.errorArguments (.groupName name.argumentType))
      let kinds ← groupMembers members
      if !kinds.any ErrorText.endingKinds.contains then return "ExceptionGroup"
      if kind = "ExceptionGroup" then throw (.errorArguments .groupNesting)
      return kind
  | arguments => .error (.errorArguments (.groupCount arguments.length))

/-- Requires a number in the place of the file of a blocked operation to be a machine integer. -/
def requireSize (kind : String) (arguments : List Value) : Except Failure Unit :=
  match arguments[2]? with
  | some size =>
      if kind = "BlockingIOError" && ErrorText.isNumbered kind arguments.length && size.isNumber then
        match size.whole? with
        | none => .error (.use size.typeName .integer)
        | some whole =>
            if isWord whole then .ok () else .error (.use size.typeName .machineInteger)
      else .ok ()
  | none => .ok ()

def errorOf (kind : String) (arguments : List Value) (mark : Nat) : Except Failure Value := do
  let kind := if systemNames.contains kind then systemKind arguments else kind
  requireSize kind arguments
  if ErrorText.groupKinds.contains kind then
    return .error (← groupKind kind arguments) arguments mark
  if let some count := ErrorText.encodingArity? kind then requireEncoding kind count arguments
  if ErrorText.sourceKinds.contains kind && arguments.length = 2 then
    requirePlace (arguments.getD 1 .nothing)
  return .error kind arguments mark

end ShadowIndex.Value
