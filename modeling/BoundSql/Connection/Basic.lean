import BoundSql.Row
import BoundSql.Sql.Compile

/-!
# Connections

A `Request` is a compiled statement and the tag that goes with it to those who observe it. A
`Connection` answers requests in some monad, with rows or with the number of rows that a statement
concerned. Nothing else is asked of a database.
-/

namespace BoundSql

/-- A statement on its way to a database. -/
structure Request where
  tag : Option String
  statement : Sql.Compiled
deriving Inhabited

/-- Whatever answers requests. -/
structure Connection (m : Type → Type) where
  /-- The rows that a statement returns. -/
  send : Request → ExceptT Error m (List Row)
  /-- How many rows a statement concerned. -/
  execute : Request → ExceptT Error m Nat

variable {m : Type → Type} [Monad m]

/-- The connection of a database that can only return rows. Tags are dropped, and the number of
rows concerned is the number of rows returned. -/
def Connection.ofSend (send : Sql.Compiled → ExceptT Error m (List Row)) : Connection m where
  send request := send request.statement
  execute request := return (← send request.statement).length

end BoundSql
