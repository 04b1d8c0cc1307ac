import ShadowIndex.Observe.LogRecord
import ShadowIndex.Observe.Trail

/-!
Contract: which records of a log are written, and in which form.

Owns:
- `Logging`, the levels of channels and the form of the one place that lines go to;
- its configuration by names of levels;
- the level in force on a channel: its own, or that of the nearest channel around it;
- the lines of a record, and those of a trail.

Does not own: the form of a record.
-/

set_option autoImplicit false

namespace ShadowIndex

inductive LineForm where
  | json
  | plain
deriving DecidableEq, Repr

namespace LineForm

def text : LineForm → String
  | json => "json"
  | plain => "plain"

end LineForm

/-- The level of the root channel and those of channels below it; zero is none. Nothing is
written without a form. -/
structure Logging where
  rootLevel : Int
  levels : Table String Int
  form : Option LineForm

namespace Logging

def initial : Logging := ⟨30, .empty, none⟩

instance : Inhabited Logging := ⟨initial⟩

def levelNames : List (String × Int) :=
  [("CRITICAL", 50), ("FATAL", 50), ("ERROR", 40), ("WARN", 30), ("WARNING", 30), ("INFO", 20),
   ("DEBUG", 10), ("NOTSET", 0)]

/-- The number of a level by its name in any case; other names are informational. -/
def levelNumber (name : String) : Int :=
  ((levelNames.find? fun row => row.1 == Text.upperWord name).map Prod.snd).getD 20

def rootName : String := "root"

def isRoot (channel : String) : Bool := channel == "" || channel == rootName

def setLevel (logging : Logging) (channel : String) (level : Int) : Logging :=
  if isRoot channel then { logging with rootLevel := level }
  else { logging with levels := logging.levels.insert channel level }

/-- The level that a channel itself has. -/
def ownLevel (logging : Logging) (channel : String) : Int :=
  if isRoot channel then logging.rootLevel else (logging.levels.find? channel).getD 0

/-- Sets the level of the root, the form of lines, and levels of channels. -/
def configure (level : String) (form : LineForm) (channels : List (String × String))
    (logging : Logging) : Logging :=
  channels.foldl (fun logging row => logging.setLevel row.1 (levelNumber row.2))
    { logging with rootLevel := levelNumber level, form := some form }

/-- The channels around one, given by the parts of its name with the last part first: the names in
front of its points, the longest first. Of two points side by side the one in front counts only if
the name between them and the start is a known channel. -/
def around (known : String → Bool) : Bool → List String → List String
  | _, [] => []
  | true, _ :: parts => around known false parts
  | false, part :: parts =>
      let name := joinWith "." (part :: parts).reverse
      let outer := around known (part == "" && !known name) parts
      if name = "" then outer else name :: outer

/-- A channel and those around it. -/
def path (logging : Logging) (channel : String) : List String :=
  let outer := around logging.levels.contains false ((channel.splitOn ".").reverse.drop 1)
  channel :: outer

def levelOf (logging : Logging) (channel : String) : Int :=
  if isRoot channel then logging.rootLevel
  else
    (((logging.path channel).map fun name => (logging.levels.find? name).getD 0).find?
      (· ≠ 0)).getD logging.rootLevel

/-- Whether a record of a level is written on a channel; level zero never is. -/
def writes (logging : Logging) (channel : String) (level : Int) : Bool :=
  decide (0 < level) && decide (logging.levelOf channel ≤ level)

/-- The lines of a record of a level on a channel. One that has no written form is dropped, and a
message of several lines gives as many. -/
def lines (logging : Logging) (channel : String) (level : Int) (record : LogRecord)
    (context : Table String Value) : List String :=
  let channel := if isRoot channel then rootName else channel
  let record := { record with channel := .str channel }
  if logging.writes channel level then
    match logging.form with
    | none => []
    | some .json => (record.json context).toOption.toList
    | some .plain => ((record.plain.map fun text => text.splitOn "\n").toOption).getD []
  else []

/-- The lines of a trail, of which every one belongs to the same trace. -/
def trailLines (logging : Logging) (guide : String) (ids : TraceIds) (trail : Trail) :
    List String :=
  trail.logLines.flatMap fun line =>
    let channel := line.note.channel
    let record : LogRecord :=
      { channel := .str channel, level := .str line.note.level.text,
        message := .str (line.note.text guide) }
    logging.lines channel line.note.level.number record
      ((Table.ofList ids.fields).insertAll line.bound.rows)

end Logging

end ShadowIndex
