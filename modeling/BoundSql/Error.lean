import BoundSql.Calendar.Duration
import BoundSql.Value.Basic

/-!
# Errors

What can go wrong, by cause. `Refusal` collects what is refused before a statement is sent,
`ReadFault` why a cell cannot be read as asked. `Error.message` is the only place where an error
is put into words.
-/

namespace BoundSql

open BoundSql.Calendar (Duration)

/-- Why a builder call or a statement is refused. -/
inductive Refusal where
  | repeatedField (name : String)
  | emptyRow
  | noRows
  | noFields
  | fieldMismatch (given expected : List String)
  | notAList (kind : Kind)
  | notADate (kind : Kind)
  | notAPart (part : String) (kind : Kind)
  | outOfRange (part : String) (low high given : Int64)
  | pageSize (size : Int64)
  | hook (reason : String)
  | other (text : String)
deriving DecidableEq

/-- Why a cell cannot be read. -/
inductive ReadFault where
  | expected (wanted : String) (kind : Kind)
  | tooLarge
  | tooSmall
  | noColumn
  | unsupported (type : String)
  | malformed
  | other (text : String)
deriving DecidableEq

/-- What a builder, a connection or a read reports. -/
inductive Error where
  | validation (cause : Refusal)
  | notFound (what : String)
  | decode (column : String) (fault : ReadFault)
  | connection (text : String)
  | query (text : String)
  | postgres (text : String)
  | uniqueViolation (text : String)
  | foreignKeyViolation (text : String)
  | checkViolation (text : String)
  | timeout (limit : Duration)
  | other (text : String)
deriving DecidableEq

/-- Names with commas between them. -/
def listing (names : List String) : String :=
  "[" ++ String.intercalate ", " names ++ "]"

/-- The words for a refusal. -/
def Refusal.message : Refusal → String
  | repeatedField name => s!"field '{name}' given more than once"
  | emptyRow => "insert row has no fields"
  | noRows => "insert requires at least one row"
  | noFields => "update requires at least one field"
  | fieldMismatch given expected =>
    s!"insert fields {listing given} do not match {listing expected}"
  | notAList kind => s!"IN list must be an array, got {kind.name}"
  | notADate kind => s!"date comparison expects a date, got {kind.name}"
  | notAPart part kind => s!"{part} expects an integer or a date, got {kind.name}"
  | outOfRange part low high given =>
    let bounds := s!"{Text.intText low.toInt} and {Text.intText high.toInt}"
    s!"{part} must be between {bounds}, got {Text.intText given.toInt}"
  | pageSize size => s!"chunk size must be positive, got {Text.intText size.toInt}"
  | hook reason => s!"Query aborted by hook: {reason}"
  | other text => text

/-- The words for a fault. -/
def ReadFault.message : ReadFault → String
  | expected wanted kind => s!"expected {wanted}, got {kind.name}"
  | tooLarge => "number too large to fit in target type"
  | tooSmall => "number too small to fit in target type"
  | noColumn => "column not found in row"
  | unsupported type => s!"unsupported column type {type}"
  | malformed => "malformed data"
  | other text => text

/-- The words for an error. -/
def Error.message : Error → String
  | validation cause => s!"Validation error: {cause.message}"
  | notFound what => s!"Not found: {what}"
  | decode column fault => s!"Decode error on column '{column}': {fault.message}"
  | connection text => s!"Connection error: {text}"
  | query text => s!"Query error: {text}"
  | postgres text => s!"Query error: {text}"
  | uniqueViolation text => s!"Unique constraint violation: {text}"
  | foreignKeyViolation text => s!"Foreign key violation: {text}"
  | checkViolation text => s!"Check constraint violation: {text}"
  | timeout limit => s!"Query timeout after {limit.text}"
  | other text => text

namespace Error

/-- Whether something was refused before it was sent. -/
def isValidation : Error → Bool
  | validation _ => true
  | _ => false

/-- Whether a row was missing. -/
def isNotFound : Error → Bool
  | notFound _ => true
  | _ => false

/-- Whether a unique constraint was violated. -/
def isUniqueViolation : Error → Bool
  | uniqueViolation _ => true
  | _ => false

/-- Whether a statement took too long. -/
def isTimeout : Error → Bool
  | timeout _ => true
  | _ => false

end Error

end BoundSql
