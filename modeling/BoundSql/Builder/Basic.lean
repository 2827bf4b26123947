import BoundSql.Builder.Filter
import BoundSql.Builder.Write
import BoundSql.Sql.Compile

/-!
# Builders

A `Builder` holds a statement under construction and the dialect that will write it. An `Edit`
changes it in one place, or is refused and changes nothing. A `Step` is an edit, or a choice
between blocks of steps; a block stops at its first refusal and keeps what ran before.
-/

namespace BoundSql

open BoundSql.Builder (Fields Filter)

/-- A statement under construction. -/
structure Builder where
  dialect : Sql.Dialect
  statement : Statement
  /-- The column that orders rows when none is named. -/
  primaryKey : String
  /-- What goes with the statement to those who observe it. -/
  tag : Option String

/-- The joins that pair rows by a condition. -/
inductive PairedJoin where
  | inner
  | left
  | right
deriving DecidableEq, Repr

/-- The kind of a join with a condition. -/
def PairedJoin.kind : PairedJoin → JoinKind
  | inner => .inner
  | left => .left
  | right => .right

/-- One change of a builder. -/
inductive Edit where
  | source (source : Source)
  | primaryKey (column : String)
  | tag (name : String)
  | columns (columns : List Column)
  | distinct (enable : Bool)
  | join (kind : PairedJoin) (table : TableRef) (on : JoinOn)
  | crossJoin (target : JoinTarget)
  | filter (joiner : Joiner) (filter : Filter)
  | havingCompare (joiner : Joiner) (field operator : String) (value : Value)
  | havingRaw (joiner : Joiner) (fragment : Fragment)
  | groups (groups : List Group)
  | order (order : Order)
  | union (all : Bool) (source : Subquery)
  | limit (n : Int64)
  | offset (n : Int64)
  | paginate (page perPage : Int64)
  | lock (lock : Option Lock)
  | insert (rows : List Fields)
  | insertRaw (fragment : Fragment)
  | update (fields : Fields)
  | updateRaw (fragment : Fragment)
  | step (field : String) (negative : Bool) (amount : Value)
  | steps (negative : Bool) (steps overwrites : Fields)
  | delete
  | truncate (cascade : Bool)
  | select

/-- An edit, or a choice between blocks of steps. -/
inductive Step where
  | edit (edit : Edit)
  | when (condition : Bool) (block : List Step)
  | choose (condition : Bool) (block otherwise : List Step)

/-- A product, or the largest number if the product is beyond it. -/
def saturatingMul (a b : Int64) : Int64 :=
  let product := a.toInt * b.toInt
  if Int64.maxValue.toInt < product then Int64.maxValue
  else if product < Int64.minValue.toInt then Int64.minValue
  else .ofInt product

namespace Statement

/-- One more condition on rows. -/
def addWhere (s : Statement) (joiner : Joiner) (predicate : Predicate) : Statement :=
  { s with wheres := s.wheres ++ [⟨joiner, predicate⟩] }

/-- One more condition on groups. -/
def addHaving (s : Statement) (joiner : Joiner) (test : Test) : Statement :=
  { s with havings := s.havings ++ [.ofTest joiner test] }

/-- One more join. -/
def addJoin (s : Statement) (join : Join) : Statement :=
  { s with joins := s.joins ++ [join] }

/-- The bounds of a page. Pages count from one and have at least one row; an offset beyond the
largest number is that number. -/
def paginate (s : Statement) (page perPage : Int64) : Statement :=
  let page := max page 1
  let size := max perPage 1
  { s with limit := some size, offset := some (saturatingMul (page - 1) size) }

/-- The statement with an action that can be refused. -/
def withAction (s : Statement) (action : Except Refusal Action) : Except Refusal Statement :=
  action.map fun action => { s with action }

end Statement

namespace Builder

/-- A builder that selects from a table. -/
def new (dialect : Sql.Dialect) (table : TableRef) : Builder :=
  ⟨dialect, .of (.table table), "id", none⟩

/-- The statement as text and values. -/
def compile (b : Builder) : Sql.Compiled :=
  b.dialect.compile b.statement

/-- The builder with another statement. -/
def withStatement (b : Builder) (s : Statement) : Builder :=
  { b with statement := s }

end Builder

namespace Edit

/-- What an edit makes of a statement; edits of the builder alone leave it as it is. -/
def onStatement (s : Statement) : Edit → Except Refusal Statement
  | .source other => .ok { s with source := other }
  | .primaryKey _ => .ok s
  | .tag _ => .ok s
  | .columns more => .ok { s with columns := s.columns ++ more }
  | .distinct enable => .ok { s with distinct := enable }
  | .join kind table on => .ok (s.addJoin ⟨kind.kind, .table table, some on⟩)
  | .crossJoin target => .ok (s.addJoin ⟨.cross, target, none⟩)
  | .filter joiner asked => asked.predicate.map (s.addWhere joiner)
  | .havingCompare joiner field operator value =>
    .ok (s.addHaving joiner (.compare field operator value))
  | .havingRaw joiner fragment => .ok (s.addHaving joiner (.raw fragment))
  | .groups more => .ok { s with groups := s.groups ++ more }
  | .order next => .ok { s with orders := s.orders ++ [next] }
  | .union all member => .ok { s with unions := s.unions ++ [⟨all, member⟩] }
  | .limit n => .ok { s with limit := some n }
  | .offset n => .ok { s with offset := some n }
  | .paginate page perPage => .ok (s.paginate page perPage)
  | .lock other => .ok { s with lock := other }
  | .insert rows => s.withAction (Builder.insertRows s.action rows)
  | .insertRaw fragment => .ok { s with action := .insert (.raw fragment) }
  | .update fields => s.withAction (Builder.setFields fields)
  | .updateRaw fragment => .ok { s with action := .update (.raw fragment) }
  | .step field negative amount =>
    .ok { s with action := .update (.assignments [.step field negative amount]) }
  | .steps negative stepped overwrites =>
    s.withAction (Builder.stepFields negative stepped overwrites)
  | .delete => .ok { s with action := .delete }
  | .truncate cascade => .ok { s with action := .truncate cascade }
  | .select => .ok { s with action := .select }

/-- What an edit makes of a builder. -/
def apply (e : Edit) (b : Builder) : Except Refusal Builder :=
  match e with
  | .primaryKey column => .ok { b with primaryKey := column }
  | .tag name => .ok { b with tag := some name }
  | e => (e.onStatement b.statement).map b.withStatement

end Edit

mutual

/-- The builder after a step, and why the step failed if it did. -/
def Step.run : Step → Builder → Builder × Option Refusal
  | .edit e, b => match e.apply b with
    | .ok b' => (b', none)
    | .error cause => (b, some cause)
  | .when condition block, b => if condition then runSteps block b else (b, none)
  | .choose condition block otherwise, b =>
    if condition then runSteps block b else runSteps otherwise b
termination_by structural step => step

/-- The builder after the steps up to the first that fails, and why that one failed. -/
def runSteps : List Step → Builder → Builder × Option Refusal
  | [], b => (b, none)
  | step :: rest, b => match step.run b with
    | (b', none) => runSteps rest b'
    | (b', some cause) => (b', some cause)
termination_by structural steps => steps

end

/-- The builder after all the steps; those that fail are passed over. -/
def Builder.runAll (b : Builder) (steps : List Step) : Builder :=
  steps.foldl (fun b step => (step.run b).1) b

end BoundSql
