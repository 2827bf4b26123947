import BoundSql.Builder.Basic

/-!
# The vocabulary of edits

The edits by the names under which they are called. A condition is linked to those before it by
its joiner. A name without an operator compares for equality.
-/

namespace BoundSql.Edit

/-! ## Source and columns -/

/-- Reads from a table, or writes to it. -/
def fromTable (table : TableRef) : Edit := .source (.table table)

/-- Reads from what a text says. -/
def fromText (text : String) : Edit := .source (.raw text)

/-- Selects more fields. -/
def selectFields (names : List String) : Edit := .columns (names.map (.field · none))

/-- Selects more fields under other names; each name comes before its field. -/
def selectNamed (aliased : List (String × String)) : Edit :=
  .columns (aliased.map fun (asName, field) => .field field (some asName))

/-- Selects what a text says. -/
def selectText (text : String) : Edit := .columns [.raw text]

/-- Selects the value of a function over a field. -/
def aggregate (function : Aggregate) (field : String) (asName : Option String) : Edit :=
  .columns [.aggregate function field asName]

/-! ## Joins -/

/-- Joins a table whose name is known and pairs all rows. -/
def crossJoinTable (table : TableRef) : Edit := .crossJoin (.table table)

/-- Joins what a fragment says and pairs all rows. -/
def crossJoinFragment (fragment : Fragment) : Edit := .crossJoin (.raw fragment)

/-- Joins a table on a condition that a fragment says. -/
def joinOnFragment (kind : PairedJoin) (table : TableRef) (on : Fragment) : Edit :=
  .join kind table (.raw on)

/-! ## Grouping, ordering, union -/

/-- Groups by more fields. -/
def groupBy (names : List String) : Edit := .groups (names.map .field)

/-- Groups by what a fragment says. -/
def groupByFragment (fragment : Fragment) : Edit := .groups [.raw fragment]

/-- Orders by a field, behind the orders before. -/
def orderByField (field : String) (ascending : Bool) : Edit := .order (.field field ascending)

/-- Orders by a field, small values first. -/
def ascendingBy (field : String) : Edit := orderByField field true

/-- Orders by a field, large values first. -/
def descendingBy (field : String) : Edit := orderByField field false

/-- Orders by what a fragment says. -/
def orderByFragment (fragment : Fragment) : Edit := .order (.raw fragment)

/-- Orders at random. -/
def shuffled : Edit := .order .random

/-- Appends the rows of another builder, repeated rows kept or not. -/
def unionOf (all : Bool) (other : Builder) : Edit := .union all (.statement other.statement)

/-- Appends the rows of what a fragment says. -/
def unionFragment (all : Bool) (fragment : Fragment) : Edit := .union all (.raw fragment)

/-! ## Locks -/

/-- Locks the rows for an update, or takes any lock off. -/
def forUpdate (enable : Bool) : Edit := .lock (if enable then some .forUpdate else none)

/-- Locks the rows against updates, or takes any lock off. -/
def forShare (enable : Bool) : Edit := .lock (if enable then some .forShare else none)

/-- Locks the rows as a text says. -/
def lockText (text : String) : Edit := .lock (some (.raw text))

/-! ## Conditions on rows -/

/-- A field compares with a value. -/
def whereCompare (joiner : Joiner) (field operator : String) (value : Value) : Edit :=
  .filter joiner (.compare field operator value)

/-- A field equals a value. -/
def whereEqual (joiner : Joiner) (field : String) (value : Value) : Edit :=
  whereCompare joiner field "=" value

/-- What a fragment says. -/
def whereFragment (joiner : Joiner) (fragment : Fragment) : Edit := .filter joiner (.raw fragment)

/-- A field is one of some values. -/
def whereWithin (joiner : Joiner) (field : String) (values : List Value) : Edit :=
  .filter joiner (.within field values false)

/-- A field is none of some values. -/
def whereNotWithin (joiner : Joiner) (field : String) (values : List Value) : Edit :=
  .filter joiner (.within field values true)

/-- A field is an item of a value that must be a list. -/
def whereWithinValue (joiner : Joiner) (field : String) (values : Value) : Edit :=
  .filter joiner (.withinValue field values false)

/-- A field is no item of a value that must be a list. -/
def whereNotWithinValue (joiner : Joiner) (field : String) (values : Value) : Edit :=
  .filter joiner (.withinValue field values true)

/-- A field lies between two values, which belong to the range or not. -/
def whereBetween (joiner : Joiner) (field : String) (low high : Value) (inclusive : Bool) : Edit :=
  .filter joiner (.between field low high inclusive false)

/-- A field does not lie between two values. -/
def whereNotBetween (joiner : Joiner) (field : String) (low high : Value) (inclusive : Bool) :
    Edit :=
  .filter joiner (.between field low high inclusive true)

/-- Two fields compare. -/
def whereFieldsCompare (joiner : Joiner) (first operator second : String) : Edit :=
  .filter joiner (.columns first operator second)

/-- Two fields are equal. -/
def whereFieldsEqual (joiner : Joiner) (first second : String) : Edit :=
  whereFieldsCompare joiner first "=" second

/-- A field is null. -/
def whereNull (joiner : Joiner) (field : String) : Edit := .filter joiner (.null field false)

/-- A field is not null. -/
def whereNotNull (joiner : Joiner) (field : String) : Edit := .filter joiner (.null field true)

/-- A part of a date compares with a value. -/
def whereDatePartCompare (part : DatePart) (joiner : Joiner) (field operator : String)
    (value : Value) : Edit :=
  .filter joiner (.datePart part field operator value)

/-- A part of a date equals a value. -/
def whereDatePart (part : DatePart) (joiner : Joiner) (field : String) (value : Value) : Edit :=
  whereDatePartCompare part joiner field "=" value

/-- Another builder has rows. -/
def whereHasRows (joiner : Joiner) (sub : Builder) : Edit :=
  .filter joiner (.hasRows (.statement sub.statement) false)

/-- Another builder has no rows. -/
def whereHasNoRows (joiner : Joiner) (sub : Builder) : Edit :=
  .filter joiner (.hasRows (.statement sub.statement) true)

/-- What a fragment says has rows. -/
def whereFragmentHasRows (joiner : Joiner) (fragment : Fragment) : Edit :=
  .filter joiner (.hasRows (.raw fragment) false)

/-- What a fragment says has no rows. -/
def whereFragmentHasNoRows (joiner : Joiner) (fragment : Fragment) : Edit :=
  .filter joiner (.hasRows (.raw fragment) true)

/-! ## Conditions on groups -/

/-- A field equals a value. -/
def havingEqual (joiner : Joiner) (field : String) (value : Value) : Edit :=
  .havingCompare joiner field "=" value

end BoundSql.Edit
