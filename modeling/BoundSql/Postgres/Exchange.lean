import BoundSql.Postgres.Bind
import BoundSql.Postgres.Cell
import BoundSql.Row

/-!
# Exchanges with a server

One statement on a connection to a server. The server prepares the statement and tells the types
of its parameters; the values are bound to them; the server runs the statement and sends rows and
a tag, or a failure. Violated constraints are errors of their own. Once the server has closed the
connection every statement fails.
-/

namespace BoundSql.Postgres

/-- What the server reports when it fails. -/
structure Failure where
  /-- The five characters that the standard gives to the condition. -/
  code : String
  message : String
  constraint : Option String
deriving DecidableEq, Repr, Inhabited

/-- The error that a failure is. -/
def Failure.error (f : Failure) : Error :=
  let text := f.constraint.getD "unknown" ++ ": " ++ f.message
  match f.code with
  | "23505" => .uniqueViolation text
  | "23503" => .foreignKeyViolation text
  | "23514" => .checkViolation text
  | _ => .postgres f.message

/-- A column of a result. -/
structure ColumnType where
  name : String
  type : PgType
deriving DecidableEq, Repr, Inhabited

/-- One statement: what is bound, and what the server has to say. -/
structure Exchange where
  values : List Value
  parameters : List PgType
  columns : List ColumnType
  rows : List (List Cell)
  tag : String
  /-- Why the statement cannot be prepared. -/
  refused : Option Failure
  /-- Why it cannot be run. -/
  failed : Option Failure

namespace Exchange

/-- The cells of the values, in the order of the parameters. -/
def bindValues (c : Codecs) : List PgType → List Value → Except Error (List Cell)
  | [], [] => .ok []
  | type :: types, v :: vs => do
    let cell ← (bind c type v).mapError fun fault => .postgres fault.message
    return cell :: (← bindValues c types vs)
  | _, _ => .error (.postgres "wrong number of parameters")

/-- The cells that are sent once the statement is prepared. -/
def prepare (c : Codecs) (e : Exchange) : Except Error (List Cell) :=
  match e.refused with
  | some failure => .error failure.error
  | none => bindValues c e.parameters e.values

/-- The cells of a row under the names of their columns. -/
def readRow (c : Codecs) : List ColumnType → List Cell → Except Error (List (String × Value))
  | column :: columns, cell :: cells => do
    let v ← (readCellAs c column.type cell).mapError (.decode column.name)
    return (column.name, v) :: (← readRow c columns cells)
  | _, _ => .ok []

/-- The rows of the result, up to the first cell that cannot be read. -/
def readRows (c : Codecs) (e : Exchange) : Except Error (List Row) :=
  e.rows.mapM fun cells => (readRow c e.columns cells).map Row.mk

/-- The text behind the last space. -/
def lastWord (cs : List Char) : List Char :=
  (cs.reverse.takeWhile (· ≠ ' ')).reverse

/-- The number of rows at the end of a tag: digits, behind a plus sign or not, that make a number
of 64 bits. Other tags concern no rows. -/
def tagCount (tag : String) : Nat :=
  let digits := match lastWord tag.toList with
    | '+' :: rest => rest
    | word => word
  match Text.natOfChars? digits with
  | some n => if n < UInt64.size then n else 0
  | none => 0

/-- How many rows the statement concerned. -/
def affected (e : Exchange) : Except Error Nat :=
  .ok (tagCount e.tag)

/-- What is sent and what comes of it, with a way to take the answer of a server that does not
fail. -/
def run {α : Type} (c : Codecs) (take : Exchange → Except Error α) (e : Exchange) :
    Option (List Cell) × Except Error α :=
  match e.prepare c with
  | .error error => (none, .error error)
  | .ok cells =>
    (some cells, match e.failed with
      | some failure => .error failure.error
      | none => take e)

/-- What comes of a statement on a connection that is closed. -/
def onClosed {α : Type} : Option (List Cell) × Except Error α :=
  (none, .error (.connection "connection closed"))

end Exchange

end BoundSql.Postgres
