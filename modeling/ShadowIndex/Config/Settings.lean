import ShadowIndex.Library.Dotenv
import ShadowIndex.Record.Snapshot
import ShadowIndex.Text.Case
import ShadowIndex.Text.Path

/-!
Contract: the settings of a search service.

Owns:
- `Settings`, their defaults, and their check from named values;
- the sources of named values: explicit ones beat those of the environment, which beat those
  of a settings file. Names are compared without regard to case.

Does not own: the format of a settings file.
-/

set_option autoImplicit false

namespace ShadowIndex

inductive Backend where
  | memory
  | sqlite
deriving DecidableEq, Repr, Inhabited

namespace Backend

def text : Backend → String
  | memory => "memory"
  | sqlite => "sqlite"

def all : List Backend := [memory, sqlite]

end Backend

structure Settings where
  backend : Backend := .memory
  path : Option String := none
  reindexOnSearch : Bool := true
  eagerReindex : Bool := false
  caseSensitive : Bool := true
  logLevel : String := "info"
  jsonLogs : Bool := true
  serviceName : String := "record-search"
  tracing : Bool := false
deriving DecidableEq, Repr

instance : Inhabited Settings := ⟨{}⟩

namespace Settings

def isSqlite (settings : Settings) : Bool := settings.backend == .sqlite

/-- What is checked for settings, as reports name it. -/
def subject : String := "Settings"

def names : List String :=
  ["index_backend", "sqlite_path", "reindex_on_search", "eager_reindex",
   "qualifier_case_sensitive", "log_level", "json_logs", "service_name", "tracing_enabled"]

def checkBackend (location : List String) : Value → Checked Backend
  | .str text =>
      match Backend.all.find? fun backend => backend.text = text with
      | some backend => .ok backend
      | none => .wrong location (.notOneOf (Backend.all.map Backend.text)) (.str text)
  | item => .wrong location (.notOneOf (Backend.all.map Backend.text)) item

def checkPath (location : List String) : Value → Checked (Option String)
  | .nothing => .ok none
  | .str text | .path text => .ok (some (Text.Path.normal text))
  | item => .wrong location .notPath item

/-- A database needs a path. -/
def checkDatabase (fields : Fields) (settings : Settings) : Checked Settings :=
  if settings.isSqlite && settings.path.isNone then
    .wrong [] (.rule ("RECORD_SEARCH_SQLITE_PATH must be set when "
      ++ "RECORD_SEARCH_INDEX_BACKEND is 'sqlite'")) (.map (Fields.pairs fields))
  else .ok settings

/-- Settings from named values; what is not named has its default. -/
def ofFields (fields : Fields) : Checked Settings :=
  let setting {α : Type} (name : String) (default : α)
      (check : List String → Value → Checked α) : Checked α :=
    match fields.find? name with
    | some value => check [name] value
    | none => .ok default
  let text (location : List String) (value : Value) := value.checkText location
  let truth (location : List String) (value : Value) := value.checkTruth location
  let stored := Checked.both (setting "index_backend" Backend.memory checkBackend)
    (setting "sqlite_path" none checkPath)
  let rebuilt := Checked.both (setting "reindex_on_search" true truth)
    (setting "eager_reindex" false truth)
  let logged := Checked.both (setting "qualifier_case_sensitive" true truth)
    (Checked.both (setting "log_level" "info" text) (setting "json_logs" true truth))
  let traced := Checked.both
    (setting "service_name" "record-search" fun location value => value.checkName location)
    (setting "tracing_enabled" false truth)
  match Checked.both (Checked.both stored rebuilt) (Checked.both logged traced) with
  | .error issues => .error issues
  | .ok (((backend, path), reindexOnSearch, eagerReindex),
      (caseSensitive, logLevel, jsonLogs), serviceName, tracing) =>
      checkDatabase fields
        { backend, path, reindexOnSearch, eagerReindex, caseSensitive, logLevel, jsonLogs,
          serviceName, tracing }

/-! ## Sources -/

/-- What the names of settings start with outside the program. -/
def variableStart : String := "record_search_"

/-- The setting that a variable names. -/
def settingOf? (outer : String) : Option String :=
  names.find? fun name => decide (Text.lowerWord outer = variableStart ++ name)

/-- The settings among variables; of several that name the same setting the last one counts. -/
def ofVariables (outside : List (String × Option String)) : List (String × Value) :=
  let named := outside.filterMap fun (outer, value) =>
    (settingOf? outer).map fun name => (name, value)
  (Table.ofList named).rows.filterMap fun (name, value) =>
    value.map fun text => (name, .str text)

/-- The settings among explicit values; of several names of the same setting the first counts. -/
def ofExplicit (values : List (String × Value)) : List (String × Value) :=
  let given := (Table.ofList values).rows
  names.filterMap fun name =>
    (given.find? fun row => decide (Text.lowerWord row.1 = name)).map fun row => (name, row.2)

/-- Settings from the text of a settings file, the environment and explicit values, later ones
first. -/
def load (file : String) (environment : List (String × String))
    (explicit : List (String × Value)) : Checked Settings :=
  let filed := ofVariables (Dotenv.read environment file).rows
  let set := ofVariables (environment.map fun row => (row.1, some row.2))
  ofFields (Table.ofList (filed ++ set ++ ofExplicit explicit))

end Settings

end ShadowIndex
