import BoundSql.Proofs.Template.Clause
import BoundSql.Proofs.Visibility

/-!
# Layouts

The layout of a statement is its text as a list of segments: the columns that its clauses name, the
statements nested in it, and all else. It is read off the statement as it is given; what a column is
written as depends on the tables in view at its place. A nested statement is a single segment of the
statement around it and has a layout of its own, so that no definition here recurs.

## Implementation notes

Aliases, the fields of an insertion and fragments are written alike in every scope. They belong to
no column segment.
-/

namespace BoundSql.Sql

open Template

/-! ## Places -/

/-- Where a statement stands: by itself, in a condition of another statement, or appended to another
one. The tables are those that the other statement brings in. -/
inductive Site where
  | top
  | inExists (outer : Site) (tables : List TableRef)
  | appended (outer : Site) (tables : List TableRef)

/-- The tables that a statement at the site sees besides its own. -/
def Site.visible : Site → List TableRef
  | top => []
  | inExists outer tables => outer.visible ++ tables
  | appended _ _ => []

def Site.scope (site : Site) : Scope :=
  scopeOf site.visible

/-- The place of a column: the site of its statement, and the tables that its statement brings
in. -/
structure Place where
  site : Site
  tables : List TableRef

/-- The tables that can be named at a place. -/
def Place.visible (place : Place) : List TableRef :=
  place.site.visible ++ place.tables

def Place.scope (place : Place) : Scope :=
  scopeOf place.visible

theorem enter_scope (site : Site) (source : Source) (joins : List Join) :
    site.scope.enter source joins = (Place.mk site (Scope.tablesOf source joins)).scope :=
  enter_scopeOf site.visible source joins

/-- What is written of a column: the column, a part of the date in it, or the column in the
condition of a join, which belongs to what is read from or to the joined table. -/
inductive Role where
  | plain
  | datePart (part : DatePart)
  | joined (owner : Source)

/-- What stands in front of a nested statement in a condition. -/
def existsOpening (negated : Bool) : String :=
  if negated then "NOT EXISTS (" else "EXISTS ("

/-- What stands in front of an appended statement. -/
def unionKeyword (all : Bool) : String :=
  if all then " UNION ALL " else " UNION "

/-- A segment of the text of a statement. -/
inductive Segment where
  | fixed (t : Template)
  | column (role : Role) (place : Place) (path : String)
  | hasRows (negated : Bool) (site : Site) (statement : Statement)
  | appended (all : Bool) (site : Site) (statement : Statement)

/-- The segments of a text. -/
abbrev Layout := List Segment

/-! ## Layouts of clauses -/

namespace Layout

def text (t : String) : Layout :=
  [.fixed (Template.text t)]

/-- The layouts of all items with commas between them. -/
def listed {α : Type} (layout : α → Layout) (items : List α) : Layout :=
  (text ", ").intercalate (items.map layout)

/-- A keyword and what belongs to it, if the clause is present. -/
def clause (present : Bool) (keyword : String) (body : Layout) : Layout :=
  if present then text keyword ++ body else []

section
variable (s : Spelling) (place : Place)

/-- A column on its own. -/
def field (path : String) : Layout :=
  [.column .plain place path]

def column : Column → Layout
  | .field name asName => field place name ++ text (s.named "" asName)
  | .raw t => text t
  | .aggregate function name asName =>
    text (aggregateName function ++ "(") ++ field place name ++ text (s.named ")" asName)

def columns (columns : List Column) : Layout :=
  if columns.isEmpty then text "*" else listed (column s place) columns

/-- A column of what is joined; what replaces a table has no name to put in front of it. -/
def joinedRole : JoinTarget → Role
  | .table t => .joined (.table t)
  | .raw _ => .plain

/-- The condition of a join. A key is a column of both sides; of two columns the second is one of
what is joined, and is written first. -/
def joinOn (source : Source) (target : JoinTarget) : JoinOn → Layout
  | .key name =>
    .column (joinedRole target) place name :: text " = " ++ [.column (.joined source) place name]
  | .columns own op joined =>
    .column (joinedRole target) place joined :: text (" " ++ s.operator op ++ " ") ++
      [.column (.joined source) place own]
  | .raw f => [.fixed (fragment f)]

def join (source : Source) (j : Join) : Layout :=
  .fixed (Template.text (joinKeyword j.kind ++ " ") ++ s.joinTarget j.target) ::
    match j.on with
    | none => []
    | some on => text " ON " ++ joinOn s place source j.target on

def joins (source : Source) (joins : List Join) : Layout :=
  joins.flatMap fun j => text " " ++ join s place source j

def test : Test → Layout
  | .compare name op value =>
    field place name ++ [.fixed (Template.text (" " ++ s.operator op ++ " ") ++ hole value)]
  | .raw f => [.fixed (fragment f)]
  | .within name values negated =>
    field place name ++ [.fixed
      (if values.isEmpty then Template.text (" " ++ nullTest negated)
      else Template.text (if negated then " NOT IN (" else " IN (") ++
        Template.listed hole values ++ Template.text ")")]
  | .null name negated => field place name ++ text (" " ++ nullTest negated)
  | .between name low high inclusive negated =>
    let compared (op : String) (bound : Value) : Layout :=
      field place name ++ [.fixed (Template.text op ++ hole bound)]
    match negated, inclusive with
    | false, true => compared " >= " low ++ text " AND " ++ compared " <= " high
    | false, false => compared " > " low ++ text " AND " ++ compared " < " high
    | true, true => text "(" ++ compared " < " low ++ text " OR " ++ compared " > " high ++ text ")"
    | true, false =>
      text "(" ++ compared " <= " low ++ text " OR " ++ compared " >= " high ++ text ")"
  | .columns first op second =>
    field place first ++ text (" " ++ s.operator op ++ " ") ++ field place second
  | .datePart part name op value =>
    [.column (.datePart part) place name,
      .fixed (Template.text (" " ++ s.operator op ++ " ") ++ hole value)]

def predicate : Predicate → Layout
  | .test t => test s place t
  | .hasRows (.statement statement) negated =>
    [.hasRows negated (.inExists place.site place.tables) statement]
  | .hasRows (.raw f) negated =>
    [.fixed (Template.text (existsOpening negated) ++ fragment f ++
      Template.text ")")]

/-- Conditions, each behind its link. -/
def linked (conditions : List Condition) : Layout :=
  conditions.flatMap fun c =>
    text (" " ++ joinerKeyword c.joiner ++ " ") ++ predicate s place c.predicate

/-- Conditions with their links between them. -/
def conditions : List Condition → Layout
  | [] => []
  | first :: rest => predicate s place first.predicate ++ linked s place rest

/-- The clause of conditions behind its keyword, if there are any. -/
def conditionClause (keyword : String) (wheres : List Condition) : Layout :=
  clause (!wheres.isEmpty) keyword (conditions s place wheres)

def group : Group → Layout
  | .field name => field place name
  | .raw f => [.fixed (fragment f)]

def grouping (groups : List Group) (havings : List Condition) : Layout :=
  clause (!groups.isEmpty) " GROUP BY "
    (listed (group place) groups ++ conditionClause s place " HAVING " havings)

def order : Order → Layout
  | .field name ascending => field place name ++ text (if ascending then " ASC" else " DESC")
  | .raw f => [.fixed (fragment f)]
  | .random => text s.randomOrder

def ordering (orders : List Order) (limit offset : Option Int64) : Layout :=
  clause (!orders.isEmpty) " ORDER BY " (listed (order s place) orders) ++
    [.fixed (Spelling.rowBound " LIMIT " limit ++ Spelling.rowBound " OFFSET " offset)]

def member (m : UnionMember) : Layout :=
  match m.source with
  | .statement statement => [.appended m.all (.appended place.site place.tables) statement]
  | .raw f =>
    [.fixed (Template.text (unionKeyword m.all) ++ fragment f)]

def assignment : Assignment → Layout
  | .set name value => field place name ++ [.fixed (Template.text " = " ++ hole value)]
  | .step name negative amount =>
    field place name ++ text " = " ++ field place name ++
      [.fixed (Template.text (if negative then " - " else " + ") ++ hole amount)]

def assignments : UpdateBody → Layout
  | .assignments sets => listed (assignment place) sets
  | .raw f => [.fixed (fragment f)]

end

/-- The layout of a statement that stands at the site. -/
def statement (s : Spelling) (site : Site) (st : Statement) : Layout :=
  let place : Place := ⟨site, Scope.tablesOf st.source st.joins⟩
  let wheres := conditionClause s place " WHERE " st.wheres
  match st.action with
  | .select =>
    text ("SELECT " ++ (if st.distinct then "DISTINCT " else "")) ++ columns s place st.columns ++
      text (" FROM " ++ s.source st.source) ++ joins s place st.source st.joins ++ wheres ++
      grouping s place st.groups st.havings ++ ordering s place st.orders st.limit st.offset ++
      st.unions.flatMap (member place) ++ text (s.locking st.lock)
  | .insert body => [.fixed (s.insertion st.source body)]
  | .update body =>
    text ("UPDATE " ++ s.source st.source ++ " SET ") ++ assignments place body ++ wheres
  | .delete => text ("DELETE FROM " ++ s.source st.source) ++ wheres
  | .truncate cascade => text (s.truncation st.source cascade)

end Layout

end BoundSql.Sql
