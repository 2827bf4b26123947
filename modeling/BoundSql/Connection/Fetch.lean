import BoundSql.Builder.Basic
import BoundSql.Connection.Basic

/-!
# Fetching

What a builder asks of a connection. Reading works on the selection that a builder would make,
whatever its action is, so that no read writes; executing takes the statement as it is. Each
function asks once, and hands on the error of the connection unchanged.
-/

namespace BoundSql

variable {m : Type → Type} [Monad m]

namespace Statement

/-- The statement that selects. -/
def selecting (s : Statement) : Statement :=
  { s with action := .select }

/-- At most `n` rows. -/
def limitedTo (n : Int64) (s : Statement) : Statement :=
  { s with limit := some n }

/-- The rows from behind the first `n`. -/
def skipping (n : Int64) (s : Statement) : Statement :=
  { s with offset := some n }

/-- The rows in descending order of a field alone. -/
def latestBy (field : String) (s : Statement) : Statement :=
  { s with orders := [.field field false] }

/-- One column alone. -/
def only (column : Column) (s : Statement) : Statement :=
  { s with columns := [column] }

/-- All rows, in any order and without locks. -/
def unbounded (s : Statement) : Statement :=
  { s with orders := [], limit := none, offset := none, lock := none }

/-- Whether the rows selected differ from those of the source in number, so that they can only be
counted as a table of their own. -/
def isCountedOutside (s : Statement) : Bool :=
  s.isGrouped || s.distinct || !s.unions.isEmpty

end Statement

namespace Builder

/-- The builder that selects. -/
def selecting (b : Builder) : Builder :=
  b.withStatement b.statement.selecting

/-- The builder whose statement is changed. -/
def changing (b : Builder) (change : Statement → Statement) : Builder :=
  b.withStatement (change b.statement)

/-- A compiled statement as a request with the tag of the builder. -/
def request (b : Builder) (compiled : Sql.Compiled) : Request :=
  ⟨b.tag, compiled⟩

/-- The rows of the statement as it is. -/
def fetch (b : Builder) (c : Connection m) : ExceptT Error m (List Row) :=
  c.send (b.request b.compile)

/-- All rows of the selection. -/
def fetchAll (b : Builder) (c : Connection m) : ExceptT Error m (List Row) :=
  b.selecting.fetch c

/-- The first row of the selection; only one is asked for. -/
def first (b : Builder) (c : Connection m) : ExceptT Error m (Option Row) := do
  return (← (b.selecting.changing (.limitedTo 1)).fetch c).head?

/-- The first of some rows, or what is missing without one. -/
def firstOf (missing : String) : List Row → Except Error Row
  | [] => .error (.notFound missing)
  | row :: _ => .ok row

/-- The first row of the selection, an error without one. -/
def firstOrError (b : Builder) (c : Connection m) : ExceptT Error m Row := do
  match ← b.first c with
  | some row => return row
  | none => throw (.notFound "Expected one row, got none")

/-- The last row of the selection by a field, or by the primary key. -/
def last (b : Builder) (field : Option String) (c : Connection m) :
    ExceptT Error m (Option Row) := do
  let latest := Statement.latestBy (field.getD b.primaryKey)
  return (← (b.selecting.changing fun s => (latest s).limitedTo 1).fetch c).head?

/-- The values of a field, in the order of the rows. -/
def valuesOf (b : Builder) (field : String) (c : Connection m) : ExceptT Error m (List Value) := do
  let rows ← (b.selecting.changing (.only (.field field none))).fetch c
  return rows.map Row.firstValue

/-- The values of a field under another name, in the order of the rows. -/
def valuesAs (b : Builder) (field asName : String) (c : Connection m) :
    ExceptT Error m (List Row) := do
  let rows ← (b.selecting.changing (.only (.field field (some asName)))).fetch c
  return rows.map fun row => ⟨[(asName, row.firstValue)]⟩

/-- A field of the first row. The row has it under its name without qualifiers. -/
def firstValueOf (b : Builder) (field : String) (c : Connection m) :
    ExceptT Error m (Option Value) := do
  match ← b.first c with
  | none => return none
  | some row => return some (← ExceptT.mk (pure (row.get (.ofList (Sql.lastPart field.toList)))))

/-- The name under which a number of rows comes back. -/
def countName : String := "aggregate"

/-- The name under which comes back whether there are rows. -/
def existsName : String := "exists"

/-- The statement that counts the rows of the selection. -/
def countStatement (b : Builder) : Sql.Compiled :=
  let counted := b.selecting.changing .unbounded
  let result := "COUNT(*) AS " ++ b.dialect.identifier countName
  if counted.statement.isCountedOutside then
    let inner := counted.compile
    ⟨"SELECT " ++ result ++ " FROM (" ++ inner.sql ++ ") AS relq_count", inner.values⟩
  else (counted.changing (.only (.raw result))).compile

/-- The statement that asks whether the selection has rows. -/
def hasRowsStatement (b : Builder) : Sql.Compiled :=
  let inner := b.selecting.compile
  ⟨"SELECT EXISTS(" ++ inner.sql ++ ") AS " ++ b.dialect.identifier existsName, inner.values⟩

/-- What a column of the first of some rows holds. -/
def readFirst {α : Type} [Readable α] (missing column : String) (rows : List Row) :
    Except Error α := do
  (← firstOf missing rows).read column

/-- How many rows the selection has, its limits left aside. -/
def count (b : Builder) (c : Connection m) : ExceptT Error m Int64 := do
  let rows ← c.send (b.request b.countStatement)
  ExceptT.mk (pure (readFirst "COUNT returned no row" countName rows))

/-- Whether the selection has rows. -/
def hasRows (b : Builder) (c : Connection m) : ExceptT Error m Bool := do
  let rows ← c.send (b.request b.hasRowsStatement)
  ExceptT.mk (pure (readFirst "EXISTS returned no row" existsName rows))

/-- Runs the statement as it is, and says how many rows it concerned. -/
def execute (b : Builder) (c : Connection m) : ExceptT Error m Nat :=
  c.execute (b.request b.compile)

end Builder

end BoundSql
