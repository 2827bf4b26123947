import BoundSql.Proofs.Path
import BoundSql.Sql.Compile

/-!
# No prefix for tables

Without a prefix for tables a statement is printed as it stands, and nobody looks at the qualifiers
of its columns. Putting the empty prefix into them would come to the same text and the same values,
though not to the same statement: a column whose qualifier names a table in view is put together
again from its parts, without the blanks around it. `assembled_alike_of_tablePrefix_empty` rests on
how columns are written, at any place and depth: never with these blanks, and with a table in front
of them just if they have no dot.
-/

namespace BoundSql.Sql

/-! ## Names up to blanks -/

/-- Renaming columns changes just the blanks around their names. -/
def KeepsTrimmed (rename : String → String) : Prop :=
  ∀ path, Text.trim (rename path) = Text.trim path

theorem beforeLastPart_nil (cs : List Char) : beforeLastPart [] cs = cs := by
  unfold beforeLastPart
  split
  · rename_i before behind hsplit
    simpa using (eq_append_of_splitLastDot? hsplit).1.symm
  · rfl

/-- With nothing put in front of its table, a column loses no more than the blanks around it. -/
theorem keepsTrimmed_column (scope : Scope) : KeepsTrimmed (scope.column "") := by
  intro path
  rw [Scope.column]
  split
  · rename_i parts qualifier name hparts hsplit
    split
    · have htrimmed := (eq_append_of_splitLastDot? hsplit).1
      rw [String.toList_empty, beforeLastPart_nil, ← htrimmed]
      simp only [Text.trim, String.toList_ofList, trimChars_trimChars]
    · rfl
  · rfl

/-! ## Columns as they are written -/

section
variable {rename : String → String} (h : KeepsTrimmed rename)
include h

theorem identifier_rename (s : Spelling) (path : String) :
    s.identifier (rename path) = s.identifier path := by
  have htrimmed : Text.trimChars (rename path).toList = Text.trimChars path.toList :=
    String.ofList_inj.mp (h path)
  rw [Spelling.identifier, ← identifierChars_trimChars, htrimmed, identifierChars_trimChars,
    Spelling.identifier]

theorem dot_mem_rename_iff (path : String) :
    '.' ∈ (rename path).toList ↔ '.' ∈ path.toList := by
  have hdot : Text.isBlank '.' = false := Text.isBlank_of_between (by decide) (by decide)
  have htrimmed : Text.trimChars (rename path).toList = Text.trimChars path.toList :=
    String.ofList_inj.mp (h path)
  rw [← mem_trimChars_iff hdot, htrimmed, mem_trimChars_iff hdot]

theorem qualify_rename (s : Spelling) (reference path : String) :
    s.qualify reference (rename path) = s.qualify reference path := by
  simp only [Spelling.qualify, List.contains_iff_mem, dot_mem_rename_iff h, identifier_rename h]

theorem joinedColumn_rename (s : Spelling) (target : JoinTarget) (path : String) :
    s.joinedColumn target (rename path) = s.joinedColumn target path := by
  cases target with
  | table t => exact qualify_rename h s _ path
  | raw f => exact identifier_rename h s path

theorem columns_rename (s : Spelling) (columns : List Column) :
    s.columns (columns.map (renameColumn rename)) = s.columns columns := by
  have hcolumn (c : Column) : s.column (renameColumn rename c) = s.column c := by
    cases c with
    | field name asName =>
        simp only [renameColumn, Spelling.column, Spelling.field, identifier_rename h]
    | raw text => rfl
    | aggregate function name asName =>
        simp only [renameColumn, Spelling.column, Spelling.function, identifier_rename h]
  simp only [Spelling.columns, List.isEmpty_map, List.map_map, Function.comp_def, hcolumn]

variable (d : Dialect)

theorem join_rename (own : String) (j : Join) :
    d.join own (renameJoin rename j) = d.join own j := by
  obtain ⟨kind, target, on⟩ := j
  cases on with
  | none => rfl
  | some on =>
      cases on with
      | key name =>
          simp only [renameJoin, Option.map_some, Dialect.join, Dialect.joinOn,
            joinedColumn_rename h, qualify_rename h]
      | columns own op joined =>
          simp only [renameJoin, Option.map_some, Dialect.join, Dialect.joinOn,
            joinedColumn_rename h, qualify_rename h]
      | raw f => rfl

theorem joins_rename (source : Source) (joins : List Join) :
    d.joins source (joins.map (renameJoin rename)) = d.joins source joins := by
  induction joins with
  | nil => rfl
  | cons j rest ih => simp only [List.map_cons, Dialect.joins, join_rename h, ih]

theorem test_rename (t : Test) : d.test (t.mapFields rename) = d.test t := by
  cases t with
  | raw f => rfl
  | datePart part field op value =>
      simp only [Test.mapFields, Dialect.test, Spelling.datePartOf, identifier_rename h]
  | _ => simp only [Test.mapFields, Dialect.test, identifier_rename h]

theorem grouping_rename (groups : List Group) (hasHavings : Bool) (havings : Printer String) :
    d.grouping (groups.map (renameGroup rename)) hasHavings havings =
      d.grouping groups hasHavings havings := by
  have hgroup (g : Group) : d.group (renameGroup rename g) = d.group g := by
    cases g with
    | field name => simp only [renameGroup, Dialect.group, identifier_rename h]
    | raw f => rfl
  simp only [Dialect.grouping, List.isEmpty_map, Printer.listed, List.mapM_map, Function.comp_def,
    hgroup]

theorem ordering_rename (orders : List Order) (limit offset : Option Int64) :
    d.ordering (orders.map (renameOrder rename)) limit offset = d.ordering orders limit offset := by
  have horder (o : Order) : d.order (renameOrder rename o) = d.order o := by
    cases o with
    | field name ascending => simp only [renameOrder, Dialect.order, identifier_rename h]
    | raw f => rfl
    | random => rfl
  simp only [Dialect.ordering, List.isEmpty_map, Printer.listed, List.mapM_map, Function.comp_def,
    horder]

theorem assignments_rename (assignments : List Assignment) :
    d.assignments (.assignments (assignments.map (renameAssignment rename))) =
      d.assignments (.assignments assignments) := by
  have hassignment (a : Assignment) :
      d.assignment (renameAssignment rename a) = d.assignment a := by
    cases a with
    | set field value => simp only [renameAssignment, Dialect.assignment, identifier_rename h]
    | step field negative amount =>
        simp only [renameAssignment, Dialect.assignment, identifier_rename h]
  simp only [Dialect.assignments, Printer.listed, List.mapM_map, Function.comp_def, hassignment]

end

/-! ## Statements as they are printed -/

section
variable (d : Dialect)

mutual

/-- A statement is printed like the one whose qualifiers got the empty prefix. -/
theorem assemble_column : ∀ (scope : Scope) (statement : Statement),
    d.assemble (renameStatement (Scope.column "") scope statement) = d.assemble statement
  | outer, ⟨source, action, columns, distinct, joins, wheres, groups, havings, orders, unions,
      limit, offset, lock⟩ => by
    have hown := keepsTrimmed_column (outer.enter source joins)
    have hwheres := conditions_column (outer.enter source joins) wheres
    have hhavings := conditions_column (outer.enter source joins) havings
    have hunions := members_column unions
    cases action with
    | select =>
        simp only [renameStatement, renameAction, Dialect.assemble, Spelling.selection,
          columns_rename hown, joins_rename hown, hwheres, hhavings, hunions,
          grouping_rename hown, ordering_rename hown, isEmpty_renameConditions]
    | insert body => rfl
    | update body =>
        cases body with
        | assignments sets =>
            simp only [renameStatement, renameAction, Dialect.assemble, hwheres,
              assignments_rename hown, isEmpty_renameConditions]
        | raw f =>
            simp only [renameStatement, renameAction, Dialect.assemble, hwheres,
              isEmpty_renameConditions]
    | delete =>
        simp only [renameStatement, renameAction, Dialect.assemble, hwheres,
          isEmpty_renameConditions]
    | truncate cascade => rfl
termination_by structural _ statement => statement

theorem conditions_column : ∀ (scope : Scope) (conditions : List Condition),
    d.conditions (renameConditions (Scope.column "") scope conditions) = d.conditions conditions
  | _, [] => rfl
  | scope, condition :: rest => by
    simp only [renameConditions, Dialect.conditions, conditionBody_column scope condition,
      linked_column scope rest]
termination_by structural _ conditions => conditions

theorem linked_column : ∀ (scope : Scope) (conditions : List Condition),
    d.linked (renameConditions (Scope.column "") scope conditions) = d.linked conditions
  | _, [] => rfl
  | scope, condition :: rest => by
    simp only [renameConditions, Dialect.linked, link_column scope condition,
      linked_column scope rest]
termination_by structural _ conditions => conditions

theorem link_column : ∀ (scope : Scope) (condition : Condition),
    d.link (renameCondition (Scope.column "") scope condition) = d.link condition
  | scope, ⟨_, body⟩ => by
    simp only [renameCondition, Dialect.link, predicate_column scope body]
termination_by structural _ condition => condition

theorem conditionBody_column : ∀ (scope : Scope) (condition : Condition),
    d.conditionBody (renameCondition (Scope.column "") scope condition) = d.conditionBody condition
  | scope, ⟨_, body⟩ => predicate_column scope body
termination_by structural _ condition => condition

theorem predicate_column : ∀ (scope : Scope) (predicate : Predicate),
    d.predicate (renamePredicate (Scope.column "") scope predicate) = d.predicate predicate
  | scope, .test t => test_rename (keepsTrimmed_column scope) d t
  | scope, .hasRows source _ => by
    simp only [renamePredicate, Dialect.predicate, subquery_column scope source]
termination_by structural _ predicate => predicate

theorem subquery_column : ∀ (scope : Scope) (subquery : Subquery),
    d.subquery (renameSubquery (Scope.column "") scope subquery) = d.subquery subquery
  | scope, .statement statement => assemble_column scope statement
  | _, .raw _ => rfl
termination_by structural _ subquery => subquery

theorem members_column : ∀ members : List UnionMember,
    d.members (renameMembers (Scope.column "") members) = d.members members
  | [] => rfl
  | first :: rest => by
    simp only [renameMembers, Dialect.members, member_column first, members_column rest]
termination_by structural members => members

theorem member_column : ∀ member : UnionMember,
    d.member (renameMember (Scope.column "") member) = d.member member
  | ⟨_, source⟩ => by
    simp only [renameMember, Dialect.member, subquery_column Scope.empty source]
termination_by structural member => member

end

end

theorem compileAfter_of_tablePrefix_empty {d : Dialect} (hempty : d.tablePrefix = "")
    (bound : List Value) (statement : Statement) :
    d.compileAfter bound statement = (d.assemble statement).after bound := by
  rw [Dialect.compileAfter, Dialect.statement, hempty]
  rfl

/-- Without a prefix for tables a statement is compiled as it stands. With the empty prefix put into
its qualifiers, here and in all statements nested in it, it would have the same text and the same
values behind whatever is bound before. -/
theorem assembled_alike_of_tablePrefix_empty {d : Dialect} (hempty : d.tablePrefix = "")
    (bound : List Value) (statement : Statement) :
    d.compileAfter bound statement = (d.assemble statement).after bound ∧
      (d.assemble (withPrefixes d.tablePrefix statement)).after bound =
        d.compileAfter bound statement := by
  have hcompiled := compileAfter_of_tablePrefix_empty hempty bound statement
  refine ⟨hcompiled, ?_⟩
  rw [hcompiled, hempty, withPrefixes, assemble_column]

/-- Posts that have an answered comment, and drafts. Some columns have blanks around them. -/
def answeredPosts : Statement :=
  { source := .table ⟨"posts", none⟩
    columns := [.field "posts.title " none]
    wheres := [⟨.and, .hasRows (.statement
      { source := .table ⟨"comments", none⟩
        wheres := [.ofTest .and (.columns "comments.post" "=" " posts.id"),
          .ofTest .and (.compare "\tcomments.answers" ">" (.int 0))] }) false⟩]
    unions := [⟨false, .statement
      { source := .table ⟨"drafts", none⟩, columns := [.field " drafts.title" none] }⟩] }

theorem assembled_alike_answeredPosts :
    Dialect.postgres.tablePrefix = "" ∧
      (withPrefixes "" answeredPosts).columns = [.field "posts.title" none] ∧
      let compiled := (Dialect.postgres.assemble (withPrefixes "" answeredPosts)).after [.null]
      compiled.sql = "SELECT posts.title FROM posts WHERE EXISTS (SELECT * FROM comments " ++
        "WHERE comments.post = posts.id AND comments.answers > $2) " ++
        "UNION SELECT drafts.title FROM drafts" ∧
      compiled.values = [.null, .int 0] := by
  obtain ⟨-, halike⟩ :=
    assembled_alike_of_tablePrefix_empty (d := .postgres) rfl [.null] answeredPosts
  have hcompiled : (Dialect.postgres.assemble (withPrefixes "" answeredPosts)).after [.null] =
    Dialect.postgres.compileAfter [.null] answeredPosts := halike
  refine ⟨rfl, by decide +kernel, ?_⟩
  simp only [hcompiled]
  exact ⟨by decide +kernel, rfl⟩

end BoundSql.Sql
