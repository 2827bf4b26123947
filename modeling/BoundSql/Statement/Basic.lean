import BoundSql.Value.Basic

/-!
# Statements as data

A `Statement` holds the clauses of one statement, whichever of them its action uses. Conditions
may hold nested statements in `EXISTS`, and a statement may have others appended by `UNION`.
Nothing here is text of a particular dialect: names, operators and fragments are as given.

## Implementation notes

A test compares columns and values and holds no statement, so that only five types recur.
-/

namespace BoundSql

/-- Text with markers such as `{0}` that stand for the values at these positions. -/
structure Fragment where
  signature : String
  values : List Value
deriving Inhabited

/-- A table, and the name it goes by in the statement. -/
structure TableRef where
  name : String
  asName : Option String
deriving DecidableEq, Repr, Inhabited

/-- What the statement reads from or writes to: a table, or text that is taken as it is. -/
inductive Source where
  | table (table : TableRef)
  | raw (text : String)
deriving DecidableEq, Repr, Inhabited

/-- Functions over the rows of a group. -/
inductive Aggregate where
  | avg
  | count
  | min
  | max
  | sum
deriving DecidableEq, Repr

/-- An entry of the list of columns. -/
inductive Column where
  | field (name : String) (asName : Option String)
  | raw (text : String)
  | aggregate (function : Aggregate) (field : String) (asName : Option String)
deriving DecidableEq, Repr, Inhabited

/-- How rows without a partner are treated. -/
inductive JoinKind where
  | cross
  | inner
  | left
  | right
deriving DecidableEq, Repr, Inhabited

/-- How a joined table is matched with the source: by a column of one name, by two columns, or by
a fragment. -/
inductive JoinOn where
  | key (name : String)
  | columns (own : String) (operator : String) (joined : String)
  | raw (fragment : Fragment)
deriving Inhabited

/-- What is joined. -/
inductive JoinTarget where
  | table (table : TableRef)
  | raw (fragment : Fragment)
deriving Inhabited

/-- A join; one without a condition pairs every row with every row. -/
structure Join where
  kind : JoinKind
  target : JoinTarget
  on : Option JoinOn
deriving Inhabited

/-- What links a condition to those before it. -/
inductive Joiner where
  | and
  | or
deriving DecidableEq, Repr, Inhabited

/-- The parts of a date that can be compared. -/
inductive DatePart where
  | date
  | day
  | month
  | year
deriving DecidableEq, Repr

/-- A comparison of columns and values. -/
inductive Test where
  | compare (field operator : String) (value : Value)
  | raw (fragment : Fragment)
  | within (field : String) (values : List Value) (negated : Bool)
  | null (field : String) (negated : Bool)
  | between (field : String) (low high : Value) (inclusive negated : Bool)
  | columns (first operator second : String)
  | datePart (part : DatePart) (field operator : String) (value : Value)
deriving Inhabited

/-- An entry of the grouping. -/
inductive Group where
  | field (name : String)
  | raw (fragment : Fragment)
deriving Inhabited

/-- An entry of the ordering. -/
inductive Order where
  | field (name : String) (ascending : Bool)
  | raw (fragment : Fragment)
  | random
deriving Inhabited

/-- How the rows read are locked. -/
inductive Lock where
  | forUpdate
  | forShare
  | raw (text : String)
deriving DecidableEq, Repr, Inhabited

/-- One column that an update sets: to a value, or to its old value and an amount more or less. -/
inductive Assignment where
  | set (field : String) (value : Value)
  | step (field : String) (negative : Bool) (amount : Value)
deriving Inhabited

/-- What is inserted. The cells of every row follow the fields. -/
inductive InsertBody where
  | rows (fields : List String) (rows : List (List Value))
  | raw (fragment : Fragment)
deriving Inhabited

/-- What an update sets. -/
inductive UpdateBody where
  | assignments (assignments : List Assignment)
  | raw (fragment : Fragment)
deriving Inhabited

/-- What the statement does. -/
inductive Action where
  | select
  | insert (body : InsertBody)
  | update (body : UpdateBody)
  | delete
  | truncate (cascade : Bool)
deriving Inhabited

mutual

/-- The clauses of one statement. An empty list of columns stands for all columns. -/
structure Statement where
  source : Source
  action : Action := .select
  columns : List Column := []
  distinct : Bool := false
  joins : List Join := []
  wheres : List Condition := []
  groups : List Group := []
  havings : List Condition := []
  orders : List Order := []
  unions : List UnionMember := []
  limit : Option Int64 := none
  offset : Option Int64 := none
  lock : Option Lock := none

/-- A predicate and what links it to those before it. -/
structure Condition where
  joiner : Joiner
  predicate : Predicate

/-- A test, or whether a nested statement has rows. -/
inductive Predicate where
  | test (test : Test)
  | hasRows (source : Subquery) (negated : Bool)

/-- A nested statement, or a fragment in its place. -/
inductive Subquery where
  | statement (statement : Statement)
  | raw (fragment : Fragment)

/-- A statement whose rows are appended, repeated rows kept or not. -/
structure UnionMember where
  all : Bool
  source : Subquery

end

instance : Inhabited Statement := ⟨{ source := default }⟩

/-- A condition that is a test. -/
def Condition.ofTest (joiner : Joiner) (test : Test) : Condition :=
  ⟨joiner, .test test⟩

/-- The statement without clauses, which selects all of a source. -/
def Statement.of (source : Source) : Statement :=
  { source }

/-- Whether the rows are grouped. -/
def Statement.isGrouped (s : Statement) : Bool :=
  !s.groups.isEmpty

namespace Test

/-- The columns that a test names. -/
def fields : Test → List String
  | compare field _ _ => [field]
  | raw _ => []
  | within field _ _ => [field]
  | null field _ => [field]
  | between field _ _ _ _ => [field]
  | columns first _ second => [first, second]
  | datePart _ field _ _ => [field]

/-- The test with other names for its columns. -/
def mapFields (rename : String → String) : Test → Test
  | compare field operator value => compare (rename field) operator value
  | raw fragment => raw fragment
  | within field values negated => within (rename field) values negated
  | null field negated => null (rename field) negated
  | between field low high inclusive negated =>
    between (rename field) low high inclusive negated
  | columns first operator second => columns (rename first) operator (rename second)
  | datePart part field operator value => datePart part (rename field) operator value

/-- Renaming changes just the names. -/
theorem fields_mapFields (rename : String → String) (t : Test) :
    (t.mapFields rename).fields = t.fields.map rename := by
  cases t <;> rfl

end Test

end BoundSql
