import ShadowIndex.Failure.Fault
import ShadowIndex.Library.Validation

/-!
Contract: everything that can go wrong, as causes.

Owns:
- `Failure`, whose constructors are the causes of failures;
- the message of a failure, the failure that caused it, and whether it ends a program. The message
  of failed checks is their report, also where it stands in the message of another failure;
- its summary, in which failed checks are written in one line.

Does not own: who raises a failure, or the word for its kind.
-/

set_option autoImplicit false

namespace ShadowIndex

/-- What a rebuild of an entry was doing. -/
inductive RebuildStage where
  | fetch
  | extraction
deriving DecidableEq, Repr

def RebuildStage.text : RebuildStage → String
  | .fetch => "fetch failed"
  | .extraction => "text extraction failed"

inductive Failure where
  | definition (fault : DefinitionFault)
  | invalid (subject : String) (issues : List Issue)
  | raised (kind : String) (arguments : List Value)
  | hostUnavailable
  | relationUnavailable
  | missingField (name : String)
  | missingKey (key : Value)
  | noField (record : Ref) (name : String)
  | hiddenField (name : String)
  | noMember (typeName member : String)
  | unhashable (typeName : String)
  | recordExists (entityType : String) (id : Value)
  | recordMissing (entityType : String) (id : Value)
  | reindex (entityType : String) (id : Value) (stage : RebuildStage) (cause : Failure)
  | association (entityType : String) (id : Value) (relation : String) (cause : Failure)
  | store (location : String) (fault : DatabaseFault)
  | database (fault : DatabaseFault)
  | integerTooLarge
  | tooManyDigits (given : Nat)
  | noStorePath
  | nullInPath
  | jsonInteger
  | jsonKey
  | pattern (fault : PatternFault)
  | notFinite (infinite : Bool)
  | time (fault : TimeFault)
  | notMapping (typeName : String)
  | use (typeName : String) (fault : UseFault)
  | argument (function name : String) (fault : NameFault)
  | errorArguments (fault : ErrorFault)
  | range (fault : RangeFault)
  | jsonText
deriving Inhabited

namespace Failure

/-- A record as messages name it. -/
def recordText (entityType : String) (id : Value) : String := entityType ++ "#" ++ id.plain

/-- The message of a failure, with the guide that reports on failed checks refer to. The message of
a missing key is the key as a literal. -/
def message (guide : String) : Failure → String
  | definition fault => fault.message
  | invalid subject issues => Issue.report guide subject issues
  | raised kind arguments => (Value.error kind arguments 0).plain
  | hostUnavailable => "database unavailable"
  | relationUnavailable => "association lookup failed"
  | missingField name => Text.quoted name
  | missingKey key => key.literal
  | noField record name => record.text ++ " has no field '" ++ name ++ "'"
  | hiddenField name => name
  | noMember typeName member =>
      "'" ++ typeName ++ "' object has no attribute '" ++ member ++ "'"
  | unhashable typeName => "unhashable type: '" ++ typeName ++ "'"
  | recordExists entityType id => Text.quoted (recordText entityType id ++ " already exists")
  | recordMissing entityType id => Text.quoted (recordText entityType id ++ " does not exist")
  | reindex entityType id stage cause =>
      "Failed to reindex " ++ recordText entityType id ++ ": " ++ stage.text ++ ": "
        ++ cause.message guide
  | association entityType id relation _ =>
      "Failed to resolve '" ++ relation ++ "' for " ++ recordText entityType id
  | store location fault => "SQLite index store failure at " ++ location ++ ": " ++ fault.message
  | database fault => fault.message
  | integerTooLarge => "Python int too large to convert to SQLite INTEGER"
  | tooManyDigits given =>
      "Exceeds the limit (4300 digits) for integer string conversion: value has "
        ++ toString given ++ " digits; use sys.set_int_max_str_digits() to increase the limit"
  | noStorePath => "sqlite_path is required for the SQLite index store"
  | nullInPath => "embedded null byte"
  | jsonInteger => "Integer exceeds 64-bit range"
  | jsonKey => "Dict key must be str"
  | pattern fault => fault.message
  | notFinite true => "cannot convert float infinity to integer"
  | notFinite false => "cannot convert float NaN to integer"
  | time fault => fault.message
  | notMapping typeName => "'" ++ typeName ++ "' object is not a mapping"
  | use typeName fault => fault.message typeName
  | argument function name fault => fault.message function name
  | errorArguments fault => fault.message
  | range fault => fault.message
  | jsonText => "str is not valid UTF-8: surrogates not allowed"

/-- The message of a failure by itself: failed checks are written in one line. -/
def summary (guide : String) : Failure → String
  | invalid _ issues => Issue.textAll issues
  | failure => failure.message guide

/-- Whether a failure ends a program, and is not there to be handled. -/
def isEnding : Failure → Bool
  | raised kind _ => ErrorText.endingKinds.contains kind
  | _ => false

/-- The failure that a failure reports on. -/
def cause? : Failure → Option Failure
  | reindex _ _ _ cause => some cause
  | association _ _ _ cause => some cause
  | store _ fault => some (.database fault)
  | _ => none

end Failure

end ShadowIndex
