import BoundSql.Sql.Identifier
import BoundSql.Statement.Basic

/-!
# Prefixes in column qualifiers

When every table has a prefix, a column that is qualified by the name of a table needs it too. A
`Scope` holds the tables without alias and the aliases that a statement can see. Inside `EXISTS`
the names of the enclosing statement are still seen; a statement appended by `UNION` begins with
an empty scope.

A qualifier that is an alias stands for the alias. Otherwise it names a table if it is the table's
whole name or its last part. Expressions, fragments and unknown qualifiers are left as they are.
-/

namespace BoundSql.Sql

/-- The names that a statement can see. -/
structure Scope where
  tables : List (List Char)
  aliases : List (List Char)
deriving DecidableEq, Repr

namespace Scope

/-- No names. -/
def empty : Scope := ⟨[], []⟩

/-- The scope with one more table: by its alias if it has one, else by its name. -/
def add (scope : Scope) (t : TableRef) : Scope :=
  match t.asName with
  | some asName => { scope with aliases := scope.aliases ++ [Text.trimChars asName.toList] }
  | none => { scope with tables := scope.tables ++ [Text.trimChars t.name.toList] }

/-- The tables that a source and joins bring in. -/
def tablesOf (source : Source) (joins : List Join) : List TableRef :=
  (match source with
    | .table t => [t]
    | .raw _ => []) ++
  joins.filterMap fun j =>
    match j.target with
    | .table t => some t
    | .raw _ => none

/-- The scope inside a statement with this source and these joins. -/
def enter (outer : Scope) (source : Source) (joins : List Join) : Scope :=
  (tablesOf source joins).foldl add outer

/-- Whether a qualifier stands for a table without alias. -/
def namesTable (scope : Scope) (qualifier : List Char) : Bool :=
  !scope.aliases.contains qualifier &&
    scope.tables.any fun table => table = qualifier || lastPart table = qualifier

/-- A column with the prefix in its qualifier, if that stands for a table. -/
def column (tablePrefix : String) (scope : Scope) (path : String) : String :=
  let trimmed := Text.trimChars path.toList
  match pathParts? trimmed, splitLastDot? trimmed with
  | some _, some (qualifier, name) =>
    if scope.namesTable qualifier then
      .ofList (beforeLastPart tablePrefix.toList qualifier ++ '.' :: name)
    else path
  | _, _ => path

end Scope

/-- The entry with another name for its column. -/
def renameColumn (rename : String → String) : Column → Column
  | .field name asName => .field (rename name) asName
  | .raw text => .raw text
  | .aggregate function field asName => .aggregate function (rename field) asName

/-- The join with other names for the columns of its condition. -/
def renameJoin (rename : String → String) (j : Join) : Join :=
  { j with on := j.on.map fun
      | .key name => .key (rename name)
      | .columns local_ op joined => .columns (rename local_) op (rename joined)
      | .raw f => .raw f }

/-- The entry with another name for its column. -/
def renameGroup (rename : String → String) : Group → Group
  | .field name => .field (rename name)
  | .raw f => .raw f

/-- The entry with another name for its column. -/
def renameOrder (rename : String → String) : Order → Order
  | .field name ascending => .field (rename name) ascending
  | .raw f => .raw f
  | .random => .random

/-- The assignment with another name for its column. -/
def renameAssignment (rename : String → String) : Assignment → Assignment
  | .set field value => .set (rename field) value
  | .step field negative amount => .step (rename field) negative amount

/-- The action with other names for the columns that an update sets. -/
def renameAction (rename : String → String) : Action → Action
  | .update (.assignments assignments) =>
    .update (.assignments (assignments.map (renameAssignment rename)))
  | action => action

mutual

/-- The statement with other names for its columns, as they are called in its scope. -/
def renameStatement (rename : Scope → String → String) : Scope → Statement → Statement
  | outer, ⟨source, action, columns, distinct, joins, wheres, groups, havings, orders, unions,
      limit, offset, lock⟩ =>
    let scope := outer.enter source joins
    { source, distinct, limit, offset, lock
      action := renameAction (rename scope) action
      columns := columns.map (renameColumn (rename scope))
      joins := joins.map (renameJoin (rename scope))
      wheres := renameConditions rename scope wheres
      groups := groups.map (renameGroup (rename scope))
      havings := renameConditions rename scope havings
      orders := orders.map (renameOrder (rename scope))
      unions := renameMembers rename unions }
termination_by structural _ statement => statement

/-- Conditions with other names for their columns. -/
def renameConditions (rename : Scope → String → String) :
    Scope → List Condition → List Condition
  | _, [] => []
  | scope, condition :: rest =>
    renameCondition rename scope condition :: renameConditions rename scope rest
termination_by structural _ conditions => conditions

/-- A condition with other names for its columns. -/
def renameCondition (rename : Scope → String → String) : Scope → Condition → Condition
  | scope, ⟨joiner, predicate⟩ => ⟨joiner, renamePredicate rename scope predicate⟩
termination_by structural _ condition => condition

/-- A predicate with other names for its columns. A nested statement sees the names around it. -/
def renamePredicate (rename : Scope → String → String) : Scope → Predicate → Predicate
  | scope, .test t => .test (t.mapFields (rename scope))
  | scope, .hasRows source negated => .hasRows (renameSubquery rename scope source) negated
termination_by structural _ predicate => predicate

/-- A nested statement with other names for its columns. -/
def renameSubquery (rename : Scope → String → String) : Scope → Subquery → Subquery
  | scope, .statement statement => .statement (renameStatement rename scope statement)
  | _, .raw f => .raw f
termination_by structural _ subquery => subquery

/-- Appended statements with other names for their columns. They see no names around them. -/
def renameMembers (rename : Scope → String → String) : List UnionMember → List UnionMember
  | [] => []
  | first :: rest => renameMember rename first :: renameMembers rename rest
termination_by structural members => members

/-- An appended statement with other names for its columns. -/
def renameMember (rename : Scope → String → String) : UnionMember → UnionMember
  | ⟨all, source⟩ => ⟨all, renameSubquery rename Scope.empty source⟩
termination_by structural member => member

end

/-- Renaming leaves out no condition. -/
theorem isEmpty_renameConditions (rename : Scope → String → String) (scope : Scope)
    (conditions : List Condition) :
    (renameConditions rename scope conditions).isEmpty = conditions.isEmpty := by
  cases conditions <;> rfl

/-- The statement in which every qualifier that names a table has the prefix. -/
def withPrefixes (tablePrefix : String) (s : Statement) : Statement :=
  renameStatement (Scope.column tablePrefix) Scope.empty s

end BoundSql.Sql
