import ShadowIndex.Failure
import ShadowIndex.Library.Statement

/-!
Contract: the settings of a database connection.

Owns:
- `ConnectionRequest`, the settings that are asked of a connection by name;
- `Connection`, what a connection reports of its settings;
- the reading of a requested setting: by name, by number, or not at all when the database does
  not know it.

Does not own: the written form of a value, or what the settings do to the table.
-/

set_option autoImplicit false

namespace ShadowIndex

structure Connection where
  journalMode : String
  synchronous : Int
  cacheSize : Int
  tempStore : Int
  busyTimeout : Int
deriving DecidableEq, Repr, Inhabited

/-- The settings that are asked of a connection. -/
structure ConnectionRequest where
  journalMode : Value := .str "WAL"
  synchronous : Value := .str "NORMAL"
  cacheSize : Value := .int (-16384)
  tempStore : Value := .str "MEMORY"
  busyTimeout : Value := .int 30000

namespace ConnectionRequest

/-- The function that asks for settings, as messages name it, and its first argument. -/
def functionName : String := "apply_connection_pragmas"

def connectionArgument : String := "conn"

def set (request : ConnectionRequest) (name : String) (value : Value) :
    Except Failure ConnectionRequest :=
  match name with
  | "journal_mode" => .ok { request with journalMode := value }
  | "synchronous" => .ok { request with synchronous := value }
  | "cache_size_kb" => .ok { request with cacheSize := value }
  | "temp_store" => .ok { request with tempStore := value }
  | "busy_timeout_ms" => .ok { request with busyTimeout := value }
  | name =>
      .error (.argument functionName name
        (if name = connectionArgument then .repeated else .unexpected))

/-- Asks for settings by their names, up to the first that is none. -/
def ofNamed (values : List (String × Value)) : Except Failure ConnectionRequest :=
  values.foldlM (fun request row => request.set row.1 row.2) {}

end ConnectionRequest

namespace Connection

/-- A number of 32 bits in hexadecimal; zero if it has no such form. -/
def readHex (digits : List Char) : Int :=
  let shown := (digits.takeWhile Lexeme.isHexDigit).dropWhile (· == '0')
  let value : Nat := shown.foldl
    (fun value c => value * 16 + (if c.isDigit then c.toNat - 48 else c.toLower.toNat - 87)) 0
  if value < 2 ^ 31 then (value : Int) else 0

/-- An integer of 32 bits at the start of a text; zero if there is none. -/
def readNumber (text : String) : Int :=
  match text.toList with
  | '0' :: 'x' :: digits | '0' :: 'X' :: digits => readHex digits
  | chars =>
      let (negative, digits) := Binary64.splitSign chars
      let size := Binary64.digitsValue (digits.takeWhile Char.isDigit)
      if negative then (if 2 ^ 31 < size then 0 else -(size : Int))
      else if 2 ^ 31 ≤ size then 0 else (size : Int)

/-- The modes of the journal; a request may cut the name of one. -/
def journalModes : List String := ["delete", "persist", "off", "truncate", "memory", "wal"]

/-- The mode of the journal after a request. A database in memory has its journal there, or has
none. -/
def journalAfter (onFile : Bool) (request : String) : String :=
  let mode := journalModes.find? fun mode => mode.startsWith (request.map Char.toLower)
  if onFile then mode.getD "delete"
  else if mode = some "off" then "off"
  else "memory"

/-- The words for levels of synchronization; any other word is the normal level. -/
def syncWords : List (String × Int) :=
  [("on", 1), ("no", 0), ("off", 0), ("false", 0), ("yes", 1), ("true", 1), ("extra", 3),
   ("full", 2)]

/-- The level of synchronization after a request; levels above six come around again. -/
def syncAfter (request : String) : Int :=
  let word := request.map Char.toLower
  let level :=
    if word.toList.head?.any Char.isDigit then readNumber word % 256
    else (syncWords.lookup word).getD 1
  let stored := (level + 1) % 8
  if stored = 0 then 0 else stored - 1

def tempAfter (request : String) : Int :=
  let word := request.map Char.toLower
  match word.toList with
  | '0' :: _ => 0
  | '1' :: _ => 1
  | '2' :: _ => 2
  | _ => if word = "file" then 1 else if word = "memory" then 2 else 0

def defaultTimeout : Int := 5000

/-- What a value says behind the name of a setting. -/
def requested (value : Value) : Except Failure String :=
  (Statement.setting value.plain).mapError Failure.database

/-- The timeout after a request. One that is not asked for stays, and one that is not positive is
none. -/
def timeoutAfter (request : Value) : Except Failure Int :=
  if request.isNothing then .ok defaultTimeout
  else (requested request).map fun text => max 0 (readNumber text)

/-- A connection after a request, whose settings are made one after the other. -/
def configured (onFile : Bool) (request : ConnectionRequest) : Except Failure Connection := do
  let busyTimeout ← timeoutAfter request.busyTimeout
  let journalMode ← requested request.journalMode
  let synchronous ← requested request.synchronous
  let cacheSize ← requested request.cacheSize
  let tempStore ← requested request.tempStore
  return { journalMode := journalAfter onFile journalMode, synchronous := syncAfter synchronous,
           cacheSize := readNumber cacheSize, tempStore := tempAfter tempStore, busyTimeout }

end Connection

end ShadowIndex
