import BoundSql.Sql.Dialect

/-!
# Printers

A printer writes text and binds values on its way. Its state is the list of the values bound so
far: a value is put at the end of the list, and the placeholder of its position is written where
the value belongs. The values of a text are therefore bound in the order in which its printer
comes to them, whatever the text looks like.
-/

namespace BoundSql.Sql

/-- Something written while values are bound. -/
abbrev Printer := StateM (List Value)

/-- A value bound behind the others, written as the placeholder of its position. -/
def Dialect.bindValue (d : Dialect) (v : Value) : Printer String := do
  modify (· ++ [v])
  return d.placeholder (← get).length

namespace Printer

/-- The texts of all items, one printed after the other, with commas between them. -/
def listed {α : Type} (print : α → Printer String) (items : List α) : Printer String := do
  return String.intercalate ", " (← items.mapM print)

/-- A keyword and what belongs to it, if the clause is present. -/
def clause (present : Bool) (keyword : String) (body : Printer String) : Printer String :=
  if present then do return keyword ++ (← body) else return ""

end Printer

end BoundSql.Sql
