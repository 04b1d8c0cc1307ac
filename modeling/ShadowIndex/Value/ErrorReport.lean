import ShadowIndex.Failure
import ShadowIndex.Text.Blank
import ShadowIndex.Text.Lines

/-!
Contract: the report of an error, in lines.

Owns:
- the line of an error: its kind, and its message if it has one;
- the lines of an error of a source text: the file, the text, and marks below the part that is
  wrong, where the error says so;
- `ErrorReport.lines`, in which the members of a group stand below it, each one deeper than the
  group. A group shows its first members only, and groups within groups end at a depth.

Does not own: the message of an error.
-/

set_option autoImplicit false

namespace ShadowIndex

/-- What an error of a source text says of its place; what it does not say is nothing. -/
structure SourcePlace where
  file : Value
  line : Value
  offset : Value
  text : Value
  lastOffset : Value

namespace SourcePlace

def ofArguments (arguments : List Value) : SourcePlace :=
  let place := if arguments.length = 2 then
    ((arguments.getD 1 .nothing).members?).getD [] else []
  let part (index : Nat) : Value := place.getD index .nothing
  ⟨part 0, part 1, part 2, part 3, part 5⟩

def fileLine (place : SourcePlace) : List String :=
  if place.line.isNothing then []
  else
    let file := if place.file.truthy then place.file.plain else "<string>"
    ["  File \"" ++ file ++ "\", line " ++ place.line.plain ++ "\n"]

/-- The file behind the message of an error that names no line. -/
def fileEnd (place : SourcePlace) : String :=
  if place.line.isNothing && !place.file.isNothing then " (" ++ place.file.plain ++ ")" else ""

/-- A text between its line feeds at the end and its indent. -/
def trimmed (text : List Char) : Nat × List Char :=
  let whole := (text.reverse.dropWhile (· == '\n')).reverse
  let shown := whole.dropWhile fun c => c == ' ' || c == '\n' || c == '\x0c'
  (whole.length - shown.length, shown)

/-- Marks below a part of a text, which starts at an offset counted from one and ends in front of
another. Blanks other than spaces stay in front of the marks. -/
def markLine (indent : Nat) (shown : List Char) (offset last : Int) : List String :=
  let last := if last = offset ∨ last = -1 then offset + 1 else last
  let first := offset - 1 - indent
  if first < 0 then []
  else
    let front := (shown.take first.toNat).map fun c => if Text.isBlank c then c else ' '
    let marks := List.replicate (last - offset).toNat '^'
    ["    " ++ String.ofList (front ++ marks) ++ "\n"]

/-- The text, and the marks below it. -/
def textLines (place : SourcePlace) : Except Failure (List String) :=
  match place.text with
  | .nothing => .ok []
  | .str text =>
      let (indent, shown) := trimmed text.toList
      let marks := match place.offset.whole? with
        | none => []
        | some offset =>
            let last := (place.lastOffset.whole?).getD 0
            markLine indent shown offset (if last = 0 then offset else last)
      .ok (("    " ++ String.ofList shown ++ "\n") :: marks)
  | .bytes _ | .buffer _ => .error (.use "str" .octets)
  | text => .error (.noMember text.typeName "rstrip")

end SourcePlace

namespace ErrorReport

/-- The line of an error, whose message may be empty. -/
def line (kind message : String) : String :=
  if message = "" then kind ++ "\n" else kind ++ ": " ++ message ++ "\n"

def sourceLines (kind : String) (arguments : List Value) : Except Failure (List String) := do
  let place := SourcePlace.ofArguments arguments
  let texts ← place.textLines
  let what := arguments.headD .nothing
  let message := if what.truthy then what.plain else "<no detail available>"
  return place.fileLine ++ texts ++ [kind ++ ": " ++ message ++ place.fileEnd ++ "\n"]

def ownLines (kind : String) (arguments : List Value) : Except Failure (List String) :=
  if ErrorText.sourceKinds.contains kind then sourceLines kind arguments
  else .ok [line kind (Value.error kind arguments 0).plain]

/-! ## Groups -/

def widthLimit : Nat := 15

def depthLimit : Nat := 10

def indent (depth : Nat) : String := String.ofList (List.replicate (2 * depth) ' ')

/-- A text at a depth. Within a group every line has a bar in front. -/
def placed (depth : Nat) (text : String) : String :=
  let front := if depth = 0 then "" else indent depth ++ "| "
  String.ofList (Text.Lines.indented front.toList true text.toList)

def titleLine (depth : Nat) (isFirst : Bool) (title : String) : String :=
  indent depth ++ (if isFirst then "+-" else "  ") ++ "+---------------- " ++ title
    ++ " ----------------\n"

def closingLine (depth : Nat) : String :=
  indent depth ++ "+------------------------------------\n"

/-- Whether the members of an error are shown at a depth. -/
def isShownGroup (depth : Nat) : Value → Bool
  | .error kind .. => ErrorText.groupKinds.contains kind && decide (depth ≤ depthLimit)
  | _ => false

/-- What stands in place of a group that is too deep. -/
def depthText : String := "... (max_group_depth is " ++ toString depthLimit ++ ")\n"

/-- What stands in place of the members that are too many. -/
def moreText (count : Nat) : String :=
  "and " ++ toString count ++ " more exception" ++ (if count = 1 then "" else "s") ++ "\n"

mutual

def linesAt (depth : Nat) : Value → Except Failure (List String)
  | .error kind arguments mark => do
      let error := Value.error kind arguments mark
      if isShownGroup depth error then
        let below ← groupLines (max depth 1) arguments
        return placed (max depth 1) (line kind error.plain) :: below
      else if ErrorText.groupKinds.contains kind then return [placed depth depthText]
      else return (← ownLines kind arguments).map (placed depth)
  | _ => .ok []

/-- The members of a group, which are its second argument. -/
def groupLines (depth : Nat) : List Value → Except Failure (List String)
  | [_, .list members] => memberLines depth 1 members
  | [_, .tuple members] => memberLines depth 1 members
  | _ => .ok []

/-- The members of a group from a place on, counted from one. The last one is closed, unless it is
a group, which closes itself. -/
def memberLines (depth place : Nat) : List Value → Except Failure (List String)
  | [] => .ok []
  | member :: rest =>
      if widthLimit < place then
        .ok [titleLine depth (decide (place = 1)) "...",
          placed (depth + 1) (moreText (rest.length + 1)), closingLine (depth + 1)]
      else do
        let shown ← linesAt (depth + 1) member
        let others ← memberLines depth (place + 1) rest
        let closing := if rest.isEmpty && !isShownGroup (depth + 1) member then
          [closingLine (depth + 1)] else []
        return titleLine depth (decide (place = 1)) (toString place) :: shown ++ closing ++ others

end

/-- The report of an error, without the end of its last line. -/
def text (error : Value) : Except Failure String :=
  (linesAt 0 error).map fun lines => String.ofList (String.join lines).toList.dropLast

end ErrorReport

end ShadowIndex
