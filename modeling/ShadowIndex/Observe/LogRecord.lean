import ShadowIndex.Observe.Context
import ShadowIndex.Observe.ErrorInfo
import ShadowIndex.Observe.Timestamp
import ShadowIndex.Record.Snapshot
import ShadowIndex.Text.Case
import ShadowIndex.Value.Json
import ShadowIndex.Value.Pattern
import ShadowIndex.Value.Slot

/-!
Contract: records of a log and their written forms.

Owns:
- `LogRecord`, what is written once: channel, level, message, time, error and extra fields;
- the JSON form: the parts of a record in a fixed order, then the extra fields, which replace
  parts of the same name. Fields that name a secret are hidden, and long texts are cut;
- the plain form.

Does not own: which records are written, or where to.
-/

set_option autoImplicit false

namespace ShadowIndex

def levelText (number : Int) : String :=
  if number = 0 then "NOTSET"
  else if number = 10 then "DEBUG"
  else if number = 20 then "INFO"
  else if number = 30 then "WARNING"
  else if number = 40 then "ERROR"
  else if number = 50 then "CRITICAL"
  else "Level " ++ toString number

/-- One record of a log, with its parts as they were given. `error` says what was raised, and
`reader` stands in the way of reading the message. -/
structure LogRecord where
  channel : Value
  level : Value
  message : Value
  arguments : Value := .tuple []
  created : Value := .float .zero
  error : Value := .nothing
  reader : Option Value := none
  extra : Table String Value := .empty

namespace LogRecord

/-- The names of the parts that every record has, which are no extra fields. -/
def partNames : List String :=
  ["name", "msg", "args", "levelname", "levelno", "pathname", "filename", "module", "exc_info",
   "exc_text", "stack_info", "lineno", "funcName", "created", "msecs", "relativeCreated",
   "thread", "threadName", "processName", "process", "message", "asctime"]

/-- Arguments in a row. A map that is alone and not empty stands for itself. -/
def argumentsOf : List Value → Value
  | [.map (pair :: pairs)] => .map (pair :: pairs)
  | arguments => .tuple arguments

/-- Sets a field: one of the parts that are written, or an extra field. -/
def put (record : LogRecord) (name : String) (value : Value) : LogRecord :=
  match name with
  | "name" => { record with channel := value }
  | "levelname" => { record with level := value }
  | "msg" => { record with message := value }
  | "args" => { record with arguments := value }
  | "created" => { record with created := value }
  | "exc_info" => { record with error := value }
  | "getMessage" => { record with reader := some value }
  | _ => { record with extra := record.extra.insert name value }

/-- A record with fields set in order, if each of them can stand under its name. -/
def set (record : LogRecord) (fields : List (String × Value)) : Except Failure LogRecord :=
  fields.foldlM (fun record field => do
    field.2.checkSlot field.1
    return record.put field.1 field.2) record

/-- The message with its arguments filled in, if there are any. -/
def codes (record : LogRecord) : Except Failure Text.Codes :=
  match record.reader with
  | some value => .error (.use value.typeName .call)
  | none =>
      if record.arguments.truthy then Pattern.fill record.message.plain record.arguments
      else .ok (.ofText record.message.plain)

/-- What stands behind the last point of a name, if something stands in front of it. -/
def lastName? (name : String) : Option String :=
  match (name.splitOn ".").reverse with
  | last :: rest => if joinWith "." rest.reverse = "" then none else some last
  | [] => none

def component? (channel : Value) : Except Failure (Option String) :=
  match channel with
  | .str name => .ok (lastName? name)
  | .bytes _ | .buffer _ => .error (.use "str" .octets)
  | channel => .error (.noMember channel.typeName "rpartition")

def messageLimit : Nat := 2000

def valueLimit : Nat := 500

def secretNames : List String := ["password", "token", "api_key", "secret", "authorization"]

/-- An extra field as it is written. -/
def shown (name : String) (value : Value) : Value :=
  if secretNames.contains (Text.lowerWord name) then .str "[REDACTED]"
  else
    match value with
    | .str text => .str (((Text.Codes.ofText text).clip valueLimit).text?.getD text)
    | value => value

def contextNames : List String := ["operation", "entity_type", "record_id"]

/-- The parts of a record in order, with a text for its message. -/
def parts (record : LogRecord) (context : Table String Value) (time message : String)
    (component exception : Option String) : List (String × Value) :=
  let idOf (name : String) := (context.find? name).getD (.str "")
  let bound := contextNames.filterMap fun name =>
    (context.find? name).bind fun value => if value.isNothing then none else some (name, value)
  [("timestamp", .str time), ("level", record.level), ("logger", record.channel),
      ("message", .str message), (TraceIds.traceField, idOf TraceIds.traceField),
      (TraceIds.spanField, idOf TraceIds.spanField)]
    ++ (component.toList.map fun component => ("component", .str component))
    ++ bound
    ++ (exception.toList.map fun text => ("exception", .str text))

/-- The extra fields that are written: no part of a record, and none that starts with an
underscore. -/
def extras (record : LogRecord) : List (String × Value) :=
  (record.extra.rows.filter fun row =>
    !partNames.contains row.1 && row.1.toList.head? ≠ some '_').map fun row =>
      (row.1, shown row.1 row.2)

/-- A record in JSON, with the fields of a context. A message that no text can hold is refused
where it stands, behind the fields in front of it. -/
def json (record : LogRecord) (context : Table String Value) : Except Failure String := do
  let time ← Timestamp.ofValue record.created
  let timeText ← time.text
  let message := (← record.codes).clip messageLimit
  let component ← component? record.channel
  let exception ← ErrorInfo.text? record.error
  let parts := record.parts context timeText (message.text?.getD "") component exception
  let fields := (Table.ofList parts).insertAll record.extras
  if message.text?.isNone then
    let _ ← (Value.map (Fields.pairs (.ofList (fields.rows.takeWhile (·.1 ≠ "message"))))).json
    throw .jsonText
  (Value.map (Fields.pairs fields)).json

/-- A record without its time: level, channel and message. A message that no text can hold is
refused. -/
def plain (record : LogRecord) : Except Failure String := do
  match (← record.codes).text? with
  | some text => return record.level.plain ++ " [" ++ record.channel.plain ++ "] " ++ text
  | none => throw .jsonText

end LogRecord

end ShadowIndex
