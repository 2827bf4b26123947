import BoundSql.Sql.Identifier
import BoundSql.Statement.Basic
import BoundSql.Text.Digits

/-!
# Dialects

A `Spelling` holds the tokens in which dialects differ, apart from placeholders: the quote, the
prefix of tables, random order, locks and the parts of dates. A `Dialect` adds how a placeholder
looks. Names, operators and clauses without values are texts of a spelling alone.
-/

namespace BoundSql.Sql

/-- The tokens of a dialect, without its placeholders. -/
structure Spelling where
  name : String
  quote : Char
  /-- What stands before the name of every table. -/
  tablePrefix : String
  randomOrder : String
  lock : Lock → String
  /-- A part of a date, of the text of a column. -/
  datePart : DatePart → String → String

/-- A spelling, and the placeholder of each position from one on. -/
structure Dialect extends Spelling where
  placeholder : Nat → String

/-- The locks of the standard. -/
def standardLock : Lock → String
  | .forUpdate => "FOR UPDATE"
  | .forShare => "FOR SHARE"
  | .raw text => text

/-- The parts of dates of the standard; numbers are cast so that they compare with integers. -/
def standardDatePart (part : DatePart) (field : String) : String :=
  match part with
  | .date => s!"CAST({field} AS DATE)"
  | .day => s!"CAST(EXTRACT(DAY FROM {field}) AS INTEGER)"
  | .month => s!"CAST(EXTRACT(MONTH FROM {field}) AS INTEGER)"
  | .year => s!"CAST(EXTRACT(YEAR FROM {field}) AS INTEGER)"

namespace Dialect

/-- PostgreSQL: numbered placeholders and double quotes. -/
def postgres : Dialect where
  name := "postgres"
  quote := '"'
  tablePrefix := ""
  randomOrder := "RANDOM()"
  lock := standardLock
  datePart := standardDatePart
  placeholder position := "$" ++ Text.natText position

/-- MySQL: question marks, whatever the position, and grave accents as quotes. -/
def mysql : Dialect where
  name := "mysql"
  quote := '\x60'
  tablePrefix := ""
  randomOrder := "RAND()"
  lock
    | .forUpdate => "FOR UPDATE"
    | .forShare => "LOCK IN SHARE MODE"
    | .raw text => text
  datePart
    | .date, field => s!"DATE({field})"
    | .day, field => s!"DAY({field})"
    | .month, field => s!"MONTH({field})"
    | .year, field => s!"YEAR({field})"
  placeholder _ := "?"

/-- A dialect that chooses only what every dialect must. -/
def plain : Dialect where
  name := "plain"
  quote := '|'
  tablePrefix := ""
  randomOrder := "ANY_ORDER"
  lock := standardLock
  datePart := standardDatePart
  placeholder position := ":" ++ Text.natText position

/-- The dialect with another prefix for tables. -/
def withPrefix (d : Dialect) (tablePrefix : String) : Dialect :=
  { d with tablePrefix }

end Dialect

/-- The keyword of an aggregate function. -/
def aggregateName : Aggregate → String
  | .avg => "AVG"
  | .count => "COUNT"
  | .min => "MIN"
  | .max => "MAX"
  | .sum => "SUM"

namespace Spelling

/-- Text in quotes. -/
def quoteIdentifier (s : Spelling) (name : String) : String :=
  .ofList (quotedChars s.quote name.toList)

/-- A path with quotes where they are needed, or an expression as it is. -/
def identifier (s : Spelling) (name : String) : String :=
  .ofList (identifierChars s.quote name.toList)

/-- The text, and the name it goes by if there is one. -/
def named (s : Spelling) (text : String) (asName : Option String) : String :=
  match asName with
  | some asName => text ++ " AS " ++ s.identifier asName
  | none => text

/-- A column, and the name it goes by. -/
def field (s : Spelling) (name : String) (asName : Option String) : String :=
  s.named (s.identifier name) asName

/-- The name of a table with the prefix before its last part. -/
def prefixed (s : Spelling) (name : String) : String :=
  .ofList (beforeLastPart s.tablePrefix.toList (Text.trimChars name.toList))

/-- A table, and the name it goes by. -/
def table (s : Spelling) (name : String) (asName : Option String) : String :=
  s.named (s.identifier (s.prefixed name)) asName

/-- An operator between its operands. -/
def operator (_ : Spelling) (op : String) : String :=
  Text.trim op

/-- A function of a column. -/
def function (s : Spelling) (name field : String) : String :=
  name ++ "(" ++ s.identifier field ++ ")"

/-- A part of a date in a column. -/
def datePartOf (s : Spelling) (part : DatePart) (field : String) : String :=
  s.datePart part (s.identifier field)

/-- The name by which conditions of joins refer to a table. -/
def tableReference (s : Spelling) (t : TableRef) : String :=
  match t.asName with
  | some asName => s.identifier asName
  | none => s.table t.name none

/-- What is read from. -/
def source (s : Spelling) : Source → String
  | .table t => s.table t.name t.asName
  | .raw text => text

/-- What is written to; it goes by no other name. -/
def target (s : Spelling) : Source → String
  | .table t => s.table t.name none
  | .raw text => text

/-- The name by which conditions of joins refer to what is read from. -/
def sourceReference (s : Spelling) : Source → String
  | .table t => s.tableReference t
  | .raw text => Text.trim text

/-- A column of a table; one that has a dot is taken to be qualified already. -/
def qualify (s : Spelling) (reference column : String) : String :=
  if column.toList.contains '.' then s.identifier column
  else reference ++ "." ++ s.identifier column

/-- An entry of the list of columns. -/
def column (s : Spelling) : Column → String
  | .field name asName => s.field name asName
  | .raw text => text
  | .aggregate function field asName => s.named (s.function (aggregateName function) field) asName

/-- The list of columns, a star for none. -/
def columns (s : Spelling) (columns : List Column) : String :=
  if columns.isEmpty then "*" else String.intercalate ", " (columns.map s.column)

end Spelling

end BoundSql.Sql
