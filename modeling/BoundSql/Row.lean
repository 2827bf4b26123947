import BoundSql.Value.Read

/-!
# Rows

A row is a list of named values in column order. Names may be repeated; the first one is found.
-/

namespace BoundSql

/-- One row of a result. -/
structure Row where
  cells : List (String × Value)
deriving Inhabited

namespace Row

/-- The first value under a name. -/
def get? (r : Row) (name : String) : Option Value :=
  (r.cells.find? fun cell => cell.1 = name).map Prod.snd

/-- The first value under a name, an error if the row has no such column. -/
def get (r : Row) (name : String) : Except Error Value :=
  match r.get? name with
  | some v => .ok v
  | none => .error (.decode name .noColumn)

/-- The first value under a name, read with a type. -/
def read {α : Type} [Readable α] (r : Row) (name : String) : Except Error α := do
  (← r.get name).read name

/-- The names, in column order. -/
def columns (r : Row) : List String :=
  r.cells.map Prod.fst

/-- The values, in column order. -/
def values (r : Row) : List Value :=
  r.cells.map Prod.snd

/-- The number of columns. -/
def size (r : Row) : Nat :=
  r.cells.length

/-- The first value, null in a row without columns. -/
def firstValue (r : Row) : Value :=
  match r.cells with
  | [] => .null
  | cell :: _ => cell.2

/-- The row as an object whose fields are the columns in their order, repetitions included. -/
def toJson (r : Row) : Json :=
  .object (r.cells.map fun cell => (cell.1, cell.2.toJson))

end Row

end BoundSql
