import BoundSql.Calendar.DateTime
import BoundSql.Calendar.Reader
import BoundSql.Json.Basic
import BoundSql.Uuid

/-!
# Values

A `Value` is what can stand for a placeholder or come back in a cell of a result. The kinds are
closed. Integers are words of 64 bits, floating-point numbers are compared by their words.
-/

namespace BoundSql

open BoundSql.Calendar (Date DateTime)
open BoundSql.Number (Double)

/-- A parameter of a statement, or a cell of a row. -/
inductive Value where
  | null
  | bool (b : Bool)
  | int (n : Int64)
  | float (x : Double)
  | text (s : String)
  | bytes (bytes : List UInt8)
  | date (d : Date)
  | dateTime (t : DateTime)
  | uuid (u : Uuid)
  | json (j : Json)
  | list (items : List Value)
deriving Inhabited

/-- The kinds of values. -/
inductive Kind where
  | null
  | bool
  | integer
  | float
  | text
  | bytes
  | date
  | dateTime
  | uuid
  | json
  | list
deriving DecidableEq, Repr

/-- The word for a kind. -/
def Kind.name : Kind → String
  | .null => "null"
  | .bool => "bool"
  | .integer => "integer"
  | .float => "float"
  | .text => "text"
  | .bytes => "bytes"
  | .date => "date"
  | .dateTime => "datetime"
  | .uuid => "uuid"
  | .json => "json"
  | .list => "array"

namespace Value

/-- The kind of a value. -/
def kind : Value → Kind
  | null => .null
  | bool _ => .bool
  | int _ => .integer
  | float _ => .float
  | text _ => .text
  | bytes _ => .bytes
  | date _ => .date
  | dateTime _ => .dateTime
  | uuid _ => .uuid
  | json _ => .json
  | list _ => .list

/-- Whether the value is null. -/
def isNull : Value → Bool
  | null => true
  | _ => false

/-- The integer that a value is. -/
def asInt? : Value → Option Int64
  | int n => some n
  | _ => none

/-- The floating-point number that a value is, or the one nearest to its integer. -/
def asDouble? : Value → Option Double
  | float x => some x
  | int n => some (.ofInt n.toInt)
  | _ => none

/-- The truth value that a value is; an integer is true unless it is zero. -/
def asBool? : Value → Option Bool
  | bool b => some b
  | int n => some (n ≠ 0)
  | _ => none

/-- The text that a value is. -/
def asText? : Value → Option String
  | text s => some s
  | _ => none

/-- The day that a value names: a date, the date of a moment, or the date that a text writes. -/
def asDate? : Value → Option Date
  | date d => some d
  | dateTime t => some t.date
  | text s => Date.ofLooseText? s
  | _ => none

end Value

end BoundSql
