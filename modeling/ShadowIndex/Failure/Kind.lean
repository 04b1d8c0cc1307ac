import ShadowIndex.Failure

/-!
Contract: the words for the kinds of failures.

Owns:
- `Failure.kind`, the word under which a failure is reported; each constructor has one, and a fault
  may have its own;
- `Failure.fullKind`, in which the words of this library have its name in front.

Does not own: messages.
-/

set_option autoImplicit false

namespace ShadowIndex

def DatabaseFault.kind : DatabaseFault → String
  | unsupported .. | secondStatement | nullCharacter => "ProgrammingError"
  | notDatabase => "DatabaseError"
  | _ => "OperationalError"

def PatternFault.kind : PatternFault → String
  | unknownConversion .. | incomplete | incompleteKey | extentTooBig _ => "ValueError"
  | characterRange | realRange | starRange _ | tooManyDigits => "OverflowError"
  | tooWide => "MemoryError"
  | _ => "TypeError"

def TimeFault.kind : TimeFault → String
  | notNumber | year _ => "ValueError"
  | seconds => "OverflowError"
  | calendar => "OSError"

def ErrorFault.kind : ErrorFault → String
  | groupEmpty | groupMember _ => "ValueError"
  | _ => "TypeError"

def UseFault.kind : UseFault → String
  | position _ => "IndexError"
  | machineInteger => "ValueError"
  | _ => "TypeError"

def RangeFault.kind : RangeFault → String
  | zeroStep => "ValueError"
  | _ => "TypeError"

def Failure.kind : Failure → String
  | definition _ => "SyntaxDefinitionError"
  | invalid .. => "ValidationError"
  | raised kind _ => kind
  | hostUnavailable | relationUnavailable => "ConnectionError"
  | missingField _ | missingKey _ | recordExists .. | recordMissing .. => "KeyError"
  | noField .. | hiddenField _ | noMember .. => "AttributeError"
  | unhashable _ | jsonInteger | jsonKey | jsonText | notMapping _ | argument .. => "TypeError"
  | reindex .. => "ReindexError"
  | association .. => "AssociationResolutionError"
  | store .. => "IndexStoreError"
  | database fault => fault.kind
  | integerTooLarge => "OverflowError"
  | noStorePath | nullInPath | tooManyDigits _ => "ValueError"
  | notFinite infinite => if infinite then "OverflowError" else "ValueError"
  | pattern fault => fault.kind
  | time fault => fault.kind
  | use _ fault => fault.kind
  | errorArguments fault => fault.kind
  | range fault => fault.kind

/-- Where the kinds of failures that are this library's own are defined. -/
def Failure.home? : Failure → Option String
  | definition _ | reindex .. | association .. | store .. => some "record_search.errors"
  | database _ => some "sqlite3"
  | _ => none

/-- The word for the kind of a failure, as traces name it. -/
def Failure.fullKind (failure : Failure) : String :=
  match failure.home? with
  | some home => home ++ "." ++ failure.kind
  | none => failure.kind

end ShadowIndex
