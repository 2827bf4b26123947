import BoundSql.Sql.Assembly
import BoundSql.Sql.Scope

/-!
# Compiling statements

A statement compiles to its text and to the values of its placeholders. If the dialect has a
prefix for tables, the qualifiers of columns get it first. Values may be bound before; the
placeholders then go on counting behind them.
-/

namespace BoundSql.Sql

/-- The text of a statement, and the values its placeholders stand for, in their order. -/
structure Compiled where
  sql : String
  values : List Value
deriving Inhabited

/-- What a printer writes and binds behind values that are bound already. -/
def Printer.after (print : Printer String) (bound : List Value) : Compiled :=
  let (sql, values) := print.run bound
  { sql, values }

namespace Dialect

/-- A statement, in which the qualifiers that name tables get their prefix first. -/
def statement (d : Dialect) (s : Statement) : Printer String :=
  if d.tablePrefix.isEmpty then d.assemble s
  else d.assemble (withPrefixes d.tablePrefix s)

/-- A statement compiled behind values that are bound already. -/
def compileAfter (d : Dialect) (bound : List Value) (s : Statement) : Compiled :=
  (d.statement s).after bound

/-- A statement on its own. -/
def compile (d : Dialect) (s : Statement) : Compiled :=
  d.compileAfter [] s

/-- A fragment filled behind values that are bound already. -/
def fillAfter (d : Dialect) (bound : List Value) (f : Fragment) : Compiled :=
  (d.fill f).after bound

end Dialect

end BoundSql.Sql
