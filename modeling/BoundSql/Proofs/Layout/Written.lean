import BoundSql.Proofs.Layout.Basic
import BoundSql.Proofs.Template.Statement

/-!
# Layouts as they are written

`templateAt_eq_written` says that the segments of a statement, one after the other, are the template
of the statement whose columns were renamed in their scopes, and `template_eq_templateAt` that a
statement by itself is compiled from this template. `Stands` follows the segments down through
nested statements and keeps the text in front of each and behind it.
-/

namespace BoundSql.Sql

open Template

/-! ## The text of segments -/

/-- A column under the name that it has in the scope of its statement. -/
def Spelling.renamed (s : Spelling) (scope : Scope) (path : String) : String :=
  if s.tablePrefix.isEmpty then path else scope.column s.tablePrefix path

namespace Spelling
variable (s : Spelling)

/-- A column as it is written at its place. -/
def columnText (role : Role) (place : Place) (path : String) : String :=
  let name := s.renamed place.scope path
  match role with
  | .plain => s.identifier name
  | .datePart part => s.datePartOf part name
  | .joined owner => s.qualify (s.sourceReference owner) name

/-- The template of a statement that stands at the site. -/
def templateAt (site : Site) (statement : Statement) : Template :=
  s.assemble (renameStatement s.renamed site.scope statement)

def segment : Segment → Template
  | .fixed t => t
  | .column role place path => text (s.columnText role place path)
  | .hasRows negated site statement =>
    text (existsOpening negated) ++ s.templateAt site statement ++ text ")"
  | .appended all site statement =>
    text (unionKeyword all) ++ s.templateAt site statement

/-- Segments one after the other. -/
def written (layout : Layout) : Template :=
  layout.flatMap s.segment

@[simp] theorem written_nil : s.written [] = [] := rfl

@[simp] theorem written_cons (segment : Segment) (layout : Layout) :
    s.written (segment :: layout) = s.segment segment ++ s.written layout :=
  List.flatMap_cons

@[simp] theorem written_append (a b : Layout) : s.written (a ++ b) = s.written a ++ s.written b :=
  List.flatMap_append

@[simp] theorem segment_fixed (t : Template) : s.segment (.fixed t) = t := rfl

@[simp] theorem written_text (t : String) : s.written (Layout.text t) = text t :=
  List.append_nil _

theorem written_listed {α : Type} (layout : α → Layout) (items : List α) :
    s.written (Layout.listed layout items) = listed (fun a => s.written (layout a)) items := by
  induction items with
  | nil => rfl
  | cons a items ih =>
      cases items with
      | nil => simp [Layout.listed, listed]
      | cons b items =>
          rw [listed_cons_cons, ← ih]
          simp [Layout.listed, List.intercalate_cons_cons]

theorem written_clause (present : Bool) (keyword : String) (body : Layout) :
    s.written (Layout.clause present keyword body) = clause present keyword (s.written body) := by
  cases present with
  | false => rfl
  | true => simp [Layout.clause, clause]

theorem listed_map {α β : Type} (template : β → Template) (f : α → β) (items : List α) :
    listed template (items.map f) = listed (fun a => template (f a)) items := by
  rw [listed, List.map_map]
  rfl

theorem text_intercalate (items : List String) :
    text (String.intercalate ", " items) = listed text items := by
  induction items with
  | nil => rfl
  | cons a items ih =>
      cases items with
      | nil => simp [listed]
      | cons b items =>
          rw [listed_cons_cons, ← ih]
          simp [String.intercalate_cons_cons]

theorem named_append (a b : String) (asName : Option String) :
    s.named (a ++ b) asName = a ++ s.named b asName := by
  cases asName with
  | none => rfl
  | some asName => simp [named, String.append_assoc]

section
variable (place : Place)

theorem written_field (path : String) :
    s.written (Layout.field place path) =
      text (s.identifier (s.renamed place.scope path)) :=
  List.append_nil _

theorem written_column (c : Column) :
    s.written (Layout.column s place c) =
      text (s.column (renameColumn (s.renamed place.scope) c)) := by
  cases c with
  | field name asName =>
      simp only [Layout.column, renameColumn, Spelling.column, Spelling.field, written_append,
        written_field, written_text, ← text_append, ← named_append, String.append_empty]
  | raw t => exact s.written_text t
  | aggregate function name asName =>
      simp only [Layout.column, renameColumn, Spelling.column, Spelling.function, written_append,
        written_field, written_text, ← text_append, ← named_append]

theorem written_columns (columns : List Column) :
    s.written (Layout.columns s place columns) =
      text (s.columns (columns.map (renameColumn (s.renamed place.scope)))) := by
  cases columns with
  | nil => exact s.written_text "*"
  | cons c columns =>
      simp only [Layout.columns, Spelling.columns, List.isEmpty_map, List.isEmpty_cons,
        Bool.false_eq_true, if_false, written_listed, written_column, text_intercalate, listed_map]

theorem segment_joined (target : JoinTarget) (path : String) :
    s.segment (.column (Layout.joinedRole target) place path) =
      text (s.joinedColumn target (s.renamed place.scope path)) := by
  cases target <;> rfl

theorem segment_own (source : Source) (path : String) :
    s.segment (.column (.joined source) place path) =
      text (s.qualify (s.sourceReference source) (s.renamed place.scope path)) := rfl

theorem written_join (source : Source) (j : Join) :
    s.written (Layout.join s place source j) =
      s.join (s.sourceReference source) (renameJoin (s.renamed place.scope) j) := by
  obtain ⟨kind, target, on⟩ := j
  cases on with
  | none => simp [Layout.join, renameJoin, join]
  | some on =>
      cases on <;> simp [Layout.join, Layout.joinOn, renameJoin, join, joinOn, segment_joined,
        segment_own]

theorem written_joins (source : Source) (joins : List Join) :
    s.written (Layout.joins s place source joins) =
      s.joins source (joins.map (renameJoin (s.renamed place.scope))) := by
  induction joins with
  | nil => rfl
  | cons j joins ih =>
      rw [Layout.joins] at ih
      simp [Layout.joins, Spelling.joins, written_join, ih]

theorem written_test (t : Test) :
    s.written (Layout.test s place t) =
      s.test (t.mapFields (s.renamed place.scope)) := by
  cases t with
  | compare name op value => simp [Layout.test, Test.mapFields, test, written_field]
  | raw f => exact List.append_nil _
  | within name values negated =>
      cases values with
      | nil => simp [Layout.test, Test.mapFields, test, written_field]
      | cons v values =>
          simp [Layout.test, Test.mapFields, test, written_field]
  | null name negated => simp [Layout.test, Test.mapFields, test, written_field]
  | between name low high inclusive negated =>
      cases negated <;> cases inclusive <;>
        simp [Layout.test, Test.mapFields, test, written_field]
  | columns first op second => simp [Layout.test, Test.mapFields, test, written_field]
  | datePart part name op value =>
      simp [Layout.test, Test.mapFields, test, segment, columnText]

theorem written_predicate (p : Predicate) :
    s.written (Layout.predicate s place p) =
      s.predicate (renamePredicate s.renamed place.scope p) := by
  cases p with
  | test t => exact written_test s place t
  | hasRows source negated =>
      cases source with
      | statement st => exact List.append_nil _
      | raw f => exact List.append_nil _

theorem written_linked (conditions : List Condition) :
    s.written (Layout.linked s place conditions) =
      s.linked (renameConditions s.renamed place.scope conditions) := by
  induction conditions with
  | nil => rfl
  | cons c conditions ih =>
      obtain ⟨joiner, body⟩ := c
      rw [Layout.linked] at ih
      simp [Layout.linked, renameConditions, renameCondition, linked, link, written_predicate, ih]

theorem written_conditions (conditions : List Condition) :
    s.written (Layout.conditions s place conditions) =
      s.conditions (renameConditions s.renamed place.scope conditions) := by
  cases conditions with
  | nil => rfl
  | cons c conditions =>
      obtain ⟨joiner, body⟩ := c
      simp [Layout.conditions, renameConditions, renameCondition, Spelling.conditions,
        conditionBody, written_predicate, written_linked]

theorem written_conditionClause (keyword : String) (conditions : List Condition) :
    s.written (Layout.conditionClause s place keyword conditions) =
      clause (!(renameConditions s.renamed place.scope conditions).isEmpty) keyword
        (s.conditions (renameConditions s.renamed place.scope conditions)) := by
  rw [Layout.conditionClause, written_clause, written_conditions, isEmpty_renameConditions]

theorem written_group (g : Group) :
    s.written (Layout.group place g) =
      s.group (renameGroup (s.renamed place.scope) g) := by
  cases g with
  | field name => exact written_field s place name
  | raw f => exact List.append_nil _

theorem written_order (o : Order) :
    s.written (Layout.order s place o) =
      s.order (renameOrder (s.renamed place.scope) o) := by
  cases o with
  | field name ascending => simp [Layout.order, renameOrder, order, written_field]
  | raw f => exact List.append_nil _
  | random => exact s.written_text _

theorem written_grouping (groups : List Group) (havings : List Condition) :
    s.written (Layout.grouping s place groups havings) =
      s.grouping (groups.map (renameGroup (s.renamed place.scope)))
        (!(renameConditions s.renamed place.scope havings).isEmpty)
        (s.conditions (renameConditions s.renamed place.scope havings)) := by
  simp only [Layout.grouping, grouping, written_clause, written_append, written_listed,
    written_group, written_conditionClause, listed_map, List.isEmpty_map]

theorem written_ordering (orders : List Order) (limit offset : Option Int64) :
    s.written (Layout.ordering s place orders limit offset) =
      s.ordering (orders.map (renameOrder (s.renamed place.scope))) limit offset := by
  simp [Layout.ordering, ordering, written_clause, written_listed, written_order, listed_map]

theorem written_members (unions : List UnionMember) :
    s.written (unions.flatMap (Layout.member place)) =
      s.members (renameMembers s.renamed unions) := by
  have hscope : (Site.appended place.site place.tables).scope = Scope.empty := rfl
  induction unions with
  | nil => rfl
  | cons m unions ih =>
      obtain ⟨all, source⟩ := m
      cases source <;>
        simp [Layout.member, unionKeyword, renameMembers, renameMember, renameSubquery, members,
          member, subquery, segment, templateAt, hscope, ih]

theorem written_assignments (sets : List Assignment) :
    s.written (Layout.listed (Layout.assignment place) sets) =
      listed s.assignment
        (sets.map (renameAssignment (s.renamed place.scope))) := by
  have hassignment (a : Assignment) : s.written (Layout.assignment place a) =
      s.assignment (renameAssignment (s.renamed place.scope) a) := by
    cases a <;> simp [Layout.assignment, renameAssignment, assignment, written_field]
  simp only [written_listed, hassignment, listed_map]

end

/-- The template of a statement is its segments, one after the other. -/
theorem templateAt_eq_written (site : Site) (statement : Statement) :
    s.templateAt site statement = s.written (Layout.statement s site statement) := by
  obtain ⟨source, action, columns, distinct, joins, wheres, groups, havings, orders, unions, limit,
    offset, lock⟩ := statement
  simp only [templateAt, renameStatement, enter_scope]
  cases action with
  | select =>
      simp only [renameAction, assemble, Layout.statement, selection, written_append, written_text,
        written_columns, written_joins, written_conditionClause, written_grouping,
        written_ordering, written_members, text_append, List.append_assoc]
  | insert body => exact (List.append_nil _).symm
  | update body =>
      cases body with
      | assignments sets =>
          simp only [renameAction, assemble, Layout.statement, Layout.assignments,
            Spelling.assignments, written_append, written_text, written_assignments,
            written_conditionClause]
      | raw f =>
          simp only [renameAction, assemble, Layout.statement, Layout.assignments,
            Spelling.assignments, written_append, written_text, written_cons, segment_fixed,
            written_nil, List.append_nil, written_conditionClause]
  | delete =>
      simp only [renameAction, assemble, Layout.statement, written_append, written_text,
        written_conditionClause]
  | truncate cascade => exact (s.written_text _).symm

end Spelling

/-! ## Statements by themselves -/

/-- Every column under its own name. -/
def ownName (_ : Scope) (path : String) : String :=
  path

theorem renameColumn_ownName (scope : Scope) : renameColumn (ownName scope) = id := by
  funext c
  cases c <;> rfl

theorem renameJoin_ownName (scope : Scope) : renameJoin (ownName scope) = id := by
  funext j
  obtain ⟨kind, target, on⟩ := j
  cases on with
  | none => rfl
  | some on => cases on <;> rfl

theorem renameGroup_ownName (scope : Scope) : renameGroup (ownName scope) = id := by
  funext g
  cases g <;> rfl

theorem renameOrder_ownName (scope : Scope) : renameOrder (ownName scope) = id := by
  funext o
  cases o <;> rfl

theorem renameAction_ownName (scope : Scope) (action : Action) :
    renameAction (ownName scope) action = action := by
  have hassignment : renameAssignment (ownName scope) = id := by
    funext a
    cases a <;> rfl
  cases action with
  | update body =>
      cases body with
      | assignments sets => simp only [renameAction, hassignment, List.map_id]
      | raw f => rfl
  | _ => rfl

theorem mapFields_ownName (scope : Scope) (t : Test) : t.mapFields (ownName scope) = t := by
  cases t <;> rfl

mutual

/-- If columns keep their names the statement stays as it is. -/
theorem renameStatement_ownName : ∀ (scope : Scope) (statement : Statement),
    renameStatement ownName scope statement = statement
  | outer, ⟨source, action, columns, distinct, joins, wheres, groups, havings, orders, unions,
      limit, offset, lock⟩ => by
    simp only [renameStatement, renameAction_ownName, renameColumn_ownName, renameJoin_ownName,
      renameGroup_ownName, renameOrder_ownName, List.map_id,
      renameConditions_ownName (outer.enter source joins) wheres,
      renameConditions_ownName (outer.enter source joins) havings, renameMembers_ownName unions]
termination_by structural _ statement => statement

theorem renameConditions_ownName : ∀ (scope : Scope) (conditions : List Condition),
    renameConditions ownName scope conditions = conditions
  | _, [] => rfl
  | scope, condition :: rest => by
    simp only [renameConditions, renameCondition_ownName scope condition,
      renameConditions_ownName scope rest]
termination_by structural _ conditions => conditions

theorem renameCondition_ownName : ∀ (scope : Scope) (condition : Condition),
    renameCondition ownName scope condition = condition
  | scope, ⟨joiner, body⟩ =>
    congrArg (Condition.mk joiner) (renamePredicate_ownName scope body)
termination_by structural _ condition => condition

theorem renamePredicate_ownName : ∀ (scope : Scope) (predicate : Predicate),
    renamePredicate ownName scope predicate = predicate
  | scope, .test t => congrArg Predicate.test (mapFields_ownName scope t)
  | scope, .hasRows source negated =>
    congrArg (Predicate.hasRows · negated) (renameSubquery_ownName scope source)
termination_by structural _ predicate => predicate

theorem renameSubquery_ownName : ∀ (scope : Scope) (subquery : Subquery),
    renameSubquery ownName scope subquery = subquery
  | scope, .statement statement =>
    congrArg Subquery.statement (renameStatement_ownName scope statement)
  | _, .raw _ => rfl
termination_by structural _ subquery => subquery

theorem renameMembers_ownName : ∀ members : List UnionMember,
    renameMembers ownName members = members
  | [] => rfl
  | first :: rest => by
    simp only [renameMembers, renameMember_ownName first, renameMembers_ownName rest]
termination_by structural members => members

theorem renameMember_ownName : ∀ member : UnionMember, renameMember ownName member = member
  | ⟨all, source⟩ => congrArg (UnionMember.mk all) (renameSubquery_ownName Scope.empty source)
termination_by structural member => member

end

/-- A statement by itself is compiled from the template that it has there. -/
theorem template_eq_templateAt (s : Spelling) (statement : Statement) :
    s.template statement = s.templateAt .top statement := by
  by_cases hempty : s.tablePrefix.isEmpty = true
  · have hrename : s.renamed = ownName := by
      funext scope path
      exact if_pos hempty
    rw [Spelling.template, if_pos hempty, Spelling.templateAt, hrename, renameStatement_ownName]
  · have hrename : s.renamed = Scope.column s.tablePrefix := by
      funext scope path
      exact if_neg hempty
    rw [Spelling.template, if_neg hempty, Spelling.templateAt, hrename]
    rfl

/-! ## Segments of nested statements -/

/-- Whether the segment stands in the text of a statement, or of one nested in it, between what is
written before and what is written after it. -/
inductive Stands (s : Spelling) (root : Statement) : Template → Segment → Template → Prop
  | top {front back : Layout} {segment : Segment}
      (layout : Layout.statement s .top root = front ++ segment :: back) :
      Stands s root (s.written front) segment (s.written back)
  | inExists {before after : Template} {negated : Bool} {site : Site} {statement : Statement}
      {front back : Layout} {segment : Segment}
      (outer : Stands s root before (.hasRows negated site statement) after)
      (layout : Layout.statement s site statement = front ++ segment :: back) :
      Stands s root (before ++ text (existsOpening negated) ++ s.written front) segment
        (s.written back ++ text ")" ++ after)
  | appended {before after : Template} {all : Bool} {site : Site} {statement : Statement}
      {front back : Layout} {segment : Segment}
      (outer : Stands s root before (.appended all site statement) after)
      (layout : Layout.statement s site statement = front ++ segment :: back) :
      Stands s root (before ++ text (unionKeyword all) ++ s.written front) segment
        (s.written back ++ after)

section
variable {s : Spelling} {root : Statement} {segment : Segment}

/-- Every segment of a statement stands in its text. -/
theorem exists_stands (h : segment ∈ Layout.statement s .top root) :
    ∃ before after, Stands s root before segment after := by
  obtain ⟨front, back, layout⟩ := List.append_of_mem h
  exact ⟨_, _, .top layout⟩

/-- Every segment of a statement inside `EXISTS` stands in the text around. -/
theorem Stands.exists_inExists {before after : Template} {negated : Bool} {site : Site}
    {statement : Statement} (outer : Stands s root before (.hasRows negated site statement) after)
    (h : segment ∈ Layout.statement s site statement) :
    ∃ before after, Stands s root before segment after := by
  obtain ⟨front, back, layout⟩ := List.append_of_mem h
  exact ⟨_, _, .inExists outer layout⟩

/-- Every segment of an appended statement stands in the text around. -/
theorem Stands.exists_appended {before after : Template} {all : Bool} {site : Site}
    {statement : Statement} (outer : Stands s root before (.appended all site statement) after)
    (h : segment ∈ Layout.statement s site statement) :
    ∃ before after, Stands s root before segment after := by
  obtain ⟨front, back, layout⟩ := List.append_of_mem h
  exact ⟨_, _, .appended outer layout⟩

end

/-- The template of a statement around one of its segments. -/
theorem Stands.template_eq {s : Spelling} {root : Statement} {before after : Template}
    {segment : Segment} (h : Stands s root before segment after) :
    s.template root = before ++ s.segment segment ++ after := by
  induction h with
  | top layout =>
      rw [template_eq_templateAt, s.templateAt_eq_written, layout, s.written_append,
        s.written_cons, List.append_assoc]
  | inExists outer layout ih =>
      rw [ih, Spelling.segment, s.templateAt_eq_written, layout]
      simp
  | appended outer layout ih =>
      rw [ih, Spelling.segment, s.templateAt_eq_written, layout]
      simp

/-- What is compiled around one of its segments. -/
theorem Stands.statement_eq {d : Dialect} {root : Statement} {before after : Template}
    {segment : Segment} (h : Stands d.toSpelling root before segment after) :
    d.statement root = (before ++ d.toSpelling.segment segment ++ after).print d.placeholder := by
  rw [← print_template, h.template_eq]

end BoundSql.Sql
