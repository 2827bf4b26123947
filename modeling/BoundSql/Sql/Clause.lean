import BoundSql.Sql.Fragment

/-!
# Clauses

The printers of the clauses that hold no nested statement. A clause prints its parts one after the
other, so its values are bound in the order of its parts.
-/

namespace BoundSql.Sql

/-- The keywords of a join. -/
def joinKeyword : JoinKind → String
  | .cross => "CROSS JOIN"
  | .inner => "INNER JOIN"
  | .left => "LEFT JOIN"
  | .right => "RIGHT JOIN"

/-- The keyword that links conditions. -/
def joinerKeyword : Joiner → String
  | .and => "AND"
  | .or => "OR"

/-- The test for null, or for what is not. -/
def nullTest (negated : Bool) : String :=
  if negated then "IS NOT NULL" else "IS NULL"

namespace Spelling

/-- A column of what is joined. -/
def joinedColumn (s : Spelling) (target : JoinTarget) (column : String) : String :=
  match target with
  | .table t => s.qualify (s.tableReference t) column
  | .raw _ => s.identifier column

/-- The head of a selection up to its joins. -/
def selection (s : Spelling) (columns : List Column) (distinct : Bool) (source : Source) :
    String :=
  "SELECT " ++ (if distinct then "DISTINCT " else "") ++ s.columns columns ++ " FROM " ++
    s.source source

/-- The lock at the end of a selection. -/
def locking (s : Spelling) : Option Lock → String
  | some lock => " " ++ s.lock lock
  | none => ""

/-- The emptying of a table. -/
def truncation (s : Spelling) (source : Source) (cascade : Bool) : String :=
  "TRUNCATE TABLE " ++ s.target source ++ (if cascade then " CASCADE" else "")

end Spelling

namespace Dialect

/-- What is joined. -/
def joinTarget (d : Dialect) : JoinTarget → Printer String
  | .table t => return d.table t.name t.asName
  | .raw f => d.fill f

/-- The condition of a join with the source that goes by `own`. -/
def joinOn (d : Dialect) (own : String) (target : JoinTarget) : JoinOn → Printer String
  | .key name => return d.joinedColumn target name ++ " = " ++ d.qualify own name
  | .columns local_ op joined =>
    return d.joinedColumn target joined ++ " " ++ d.operator op ++ " " ++ d.qualify own local_
  | .raw f => d.fill f

/-- A join with the source that goes by `own`. A fragment in the place of the joined table is
filled before one in the condition. -/
def join (d : Dialect) (own : String) (j : Join) : Printer String := do
  let target ← d.joinTarget j.target
  match j.on with
  | none => return joinKeyword j.kind ++ " " ++ target
  | some on =>
    let condition ← d.joinOn own j.target on
    return joinKeyword j.kind ++ " " ++ target ++ " ON " ++ condition

/-- The joins of a source, each behind a blank. -/
def joins (d : Dialect) (source : Source) : List Join → Printer String
  | [] => return ""
  | j :: rest => do
    let first ← d.join (d.sourceReference source) j
    return " " ++ first ++ (← joins d source rest)

/-- A comparison of columns and values. -/
def test (d : Dialect) : Test → Printer String
  | .compare field op value => do
    return d.identifier field ++ " " ++ d.operator op ++ " " ++ (← d.bindValue value)
  | .raw f => d.fill f
  | .within field values negated =>
    if values.isEmpty then return d.identifier field ++ " " ++ nullTest negated
    else do
      let list ← Printer.listed d.bindValue values
      return d.identifier field ++ (if negated then " NOT IN (" else " IN (") ++ list ++ ")"
  | .null field negated => return d.identifier field ++ " " ++ nullTest negated
  | .between field low high inclusive negated => do
    let column := d.identifier field
    let low ← d.bindValue low
    let high ← d.bindValue high
    match negated, inclusive with
    | false, true => return column ++ " >= " ++ low ++ " AND " ++ column ++ " <= " ++ high
    | false, false => return column ++ " > " ++ low ++ " AND " ++ column ++ " < " ++ high
    | true, true => return "(" ++ column ++ " < " ++ low ++ " OR " ++ column ++ " > " ++ high ++ ")"
    | true, false =>
      return "(" ++ column ++ " <= " ++ low ++ " OR " ++ column ++ " >= " ++ high ++ ")"
  | .columns first op second =>
    return d.identifier first ++ " " ++ d.operator op ++ " " ++ d.identifier second
  | .datePart part field op value => do
    return d.datePartOf part field ++ " " ++ d.operator op ++ " " ++ (← d.bindValue value)

/-- An entry of the grouping. -/
def group (d : Dialect) : Group → Printer String
  | .field name => return d.identifier name
  | .raw f => d.fill f

/-- An entry of the ordering. -/
def order (d : Dialect) : Order → Printer String
  | .field name ascending => return d.identifier name ++ (if ascending then " ASC" else " DESC")
  | .raw f => d.fill f
  | .random => return d.randomOrder

/-- A bound on the number of rows; only a positive one is written. -/
def rowBound (d : Dialect) (keyword : String) : Option Int64 → Printer String
  | some n => Printer.clause (0 < n) keyword (d.bindValue (.int n))
  | none => return ""

/-- The grouping, and behind it the conditions on groups. -/
def grouping (d : Dialect) (groups : List Group) (hasHavings : Bool)
    (havings : Printer String) : Printer String :=
  Printer.clause (!groups.isEmpty) " GROUP BY " do
    let entries ← Printer.listed d.group groups
    return entries ++ (← Printer.clause hasHavings " HAVING " havings)

/-- The ordering and the bounds on the number of rows. -/
def ordering (d : Dialect) (orders : List Order) (limit offset : Option Int64) :
    Printer String := do
  let orders ← Printer.clause (!orders.isEmpty) " ORDER BY " (Printer.listed d.order orders)
  let limit ← d.rowBound " LIMIT " limit
  return orders ++ limit ++ (← d.rowBound " OFFSET " offset)

/-- The cells of one row in parentheses. -/
def rowCells (d : Dialect) (cells : List Value) : Printer String := do
  return "(" ++ (← Printer.listed d.bindValue cells) ++ ")"

/-- An insertion. -/
def insertion (d : Dialect) (source : Source) : InsertBody → Printer String
  | .rows fields rows => do
    let tuples ← Printer.listed d.rowCells rows
    return "INSERT INTO " ++ d.target source ++ " (" ++
      String.intercalate ", " (fields.map d.identifier) ++ ") VALUES " ++ tuples
  | .raw f => do
    return "INSERT INTO " ++ d.target source ++ " " ++ (← d.fill f)

/-- One column that is set. -/
def assignment (d : Dialect) : Assignment → Printer String
  | .set field value => do
    return d.identifier field ++ " = " ++ (← d.bindValue value)
  | .step field negative amount => do
    let column := d.identifier field
    return column ++ " = " ++ column ++ (if negative then " - " else " + ") ++
      (← d.bindValue amount)

/-- What an update sets. -/
def assignments (d : Dialect) : UpdateBody → Printer String
  | .assignments assignments => Printer.listed d.assignment assignments
  | .raw f => d.fill f

end Dialect

end BoundSql.Sql
