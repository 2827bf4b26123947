import BoundSql.Proofs.Markers
import BoundSql.Proofs.Template.Statement

/-!
# Parameters of a statement

The parameters of a statement are the values it binds, read off its clauses alone: joins with what
is joined before the condition, `WHERE`, the grouping with `HAVING`, the ordering, the bounds on
the number of rows, and what is appended. `values_compileAfter` says that every dialect binds just
these, whatever its tokens and the prefix of its tables are.
-/

namespace BoundSql

/-! ## Parameters of clauses -/

/-- A join binds what its target and then what its condition binds. -/
def Join.parameters (j : Join) : List Value :=
  (match j.target with
    | .table _ => []
    | .raw f => f.parameters) ++
  match j.on with
    | some (.raw f) => f.parameters
    | _ => []

def Test.parameters : Test → List Value
  | .compare _ _ value => [value]
  | .raw f => f.parameters
  | .within _ values _ => values
  | .null _ _ => []
  | .between _ low high _ _ => [low, high]
  | .columns _ _ _ => []
  | .datePart _ _ _ value => [value]

def Group.parameters : Group → List Value
  | .field _ => []
  | .raw f => f.parameters

def Order.parameters : Order → List Value
  | .field _ _ => []
  | .raw f => f.parameters
  | .random => []

/-- A bound on the number of rows is bound only if it is positive. -/
def rowBoundParameters (rows : Option Int64) : List Value :=
  ((rows.filter (0 < ·)).map .int).toList

/-- An insertion binds the cells of its rows, row by row. -/
def InsertBody.parameters : InsertBody → List Value
  | .rows _ cells => cells.flatten
  | .raw f => f.parameters

def Assignment.parameters : Assignment → List Value
  | .set _ value => [value]
  | .step _ _ amount => [amount]

def UpdateBody.parameters : UpdateBody → List Value
  | .assignments sets => sets.flatMap Assignment.parameters
  | .raw f => f.parameters

/-! ## Parameters of statements -/

mutual

/-- The values that a statement binds, in their order. -/
def Statement.parameters : Statement → List Value
  | ⟨_, action, _, _, joins, wheres, groups, havings, orders, unions, limit, offset, _⟩ =>
    match action with
    | .select =>
      joins.flatMap Join.parameters ++ conditionParameters wheres ++
        groups.flatMap Group.parameters ++
        (if groups.isEmpty then [] else conditionParameters havings) ++
        orders.flatMap Order.parameters ++
        rowBoundParameters limit ++ rowBoundParameters offset ++ memberParameters unions
    | .insert body => body.parameters
    | .update body => body.parameters ++ conditionParameters wheres
    | .delete => conditionParameters wheres
    | .truncate _ => []
termination_by structural statement => statement

/-- The values that conditions bind, one condition after the other. -/
def conditionParameters : List Condition → List Value
  | [] => []
  | condition :: rest => condition.parameters ++ conditionParameters rest
termination_by structural conditions => conditions

def Condition.parameters : Condition → List Value
  | ⟨_, body⟩ => body.parameters
termination_by structural condition => condition

def Predicate.parameters : Predicate → List Value
  | .test t => t.parameters
  | .hasRows source _ => source.parameters
termination_by structural predicate => predicate

def Subquery.parameters : Subquery → List Value
  | .statement statement => statement.parameters
  | .raw f => f.parameters
termination_by structural subquery => subquery

/-- The values that appended statements bind, one statement after the other. -/
def memberParameters : List UnionMember → List Value
  | [] => []
  | first :: rest => first.parameters ++ memberParameters rest
termination_by structural members => members

def UnionMember.parameters : UnionMember → List Value
  | ⟨_, source⟩ => source.parameters
termination_by structural member => member

end

namespace Sql

open Template

/-! ## The values of templates -/

namespace Spelling
variable (s : Spelling)

theorem values_join (own : String) (j : Join) : (s.join own j).values = j.parameters := by
  obtain ⟨kind, target, on⟩ := j
  have htarget : (s.joinTarget target).values =
      match target with
      | .table _ => []
      | .raw f => f.parameters := by
    cases target with
    | table t => exact values_text _
    | raw f => exact values_fragment f
  cases on with
  | none => simp [join, Join.parameters, htarget]
  | some on => cases on <;> simp [join, joinOn, Join.parameters, htarget, values_fragment]

theorem values_joins (source : Source) (joins : List Join) :
    (s.joins source joins).values = joins.flatMap Join.parameters := by
  induction joins with
  | nil => rfl
  | cons j rest ih => simp [Spelling.joins, values_join, ih]

theorem values_test (t : Test) : (s.test t).values = t.parameters := by
  cases t with
  | compare field op value => simp [test, Test.parameters]
  | raw f => exact values_fragment f
  | within field values negated =>
      cases values with
      | nil => exact values_text _
      | cons v values => simp [test, Test.parameters, values_listed]
  | null field negated => exact values_text _
  | between field low high inclusive negated =>
      cases negated <;> cases inclusive <;> simp [test, Test.parameters]
  | columns first op second => exact values_text _
  | datePart part field op value => simp [test, Test.parameters]

theorem values_group (g : Group) : (s.group g).values = g.parameters := by
  cases g with
  | field name => exact values_text _
  | raw f => exact values_fragment f

theorem values_order (o : Order) : (s.order o).values = o.parameters := by
  cases o with
  | field name ascending => exact values_text _
  | raw f => exact values_fragment f
  | random => exact values_text _

theorem values_rowBound (keyword : String) (rows : Option Int64) :
    (rowBound keyword rows).values = rowBoundParameters rows := by
  cases rows with
  | none => rfl
  | some n =>
      by_cases h : 0 < n <;> simp [rowBound, values_clause, rowBoundParameters, Option.filter, h]

theorem values_ordering (orders : List Order) (limit offset : Option Int64) :
    (s.ordering orders limit offset).values =
      orders.flatMap Order.parameters ++ rowBoundParameters limit ++
        rowBoundParameters offset := by
  cases orders with
  | nil => simp [ordering, values_clause, values_rowBound]
  | cons o orders =>
      simp [ordering, values_clause, values_rowBound, values_listed, values_order]

theorem values_grouping (groups : List Group) (hasHavings : Bool) (havings : Template) :
    (s.grouping groups hasHavings havings).values =
      groups.flatMap Group.parameters ++
        if groups.isEmpty then [] else if hasHavings then havings.values else [] := by
  cases groups with
  | nil => simp [grouping, values_clause]
  | cons g groups => simp [grouping, values_clause, values_listed, values_group]

theorem values_insertion (source : Source) (body : InsertBody) :
    (s.insertion source body).values = body.parameters := by
  cases body with
  | rows fields rows =>
      simp [insertion, rowCells, values_listed, InsertBody.parameters, List.flatMap_id']
  | raw f => simp [insertion, values_fragment, InsertBody.parameters]

theorem values_assignments (body : UpdateBody) :
    (s.assignments body).values = body.parameters := by
  cases body with
  | assignments assignments =>
      have hassignment (a : Assignment) : (s.assignment a).values = a.parameters := by
        cases a <;> simp [assignment, Assignment.parameters]
      simp [Spelling.assignments, values_listed, hassignment, UpdateBody.parameters]
  | raw f => exact values_fragment f

/-- Without conditions nothing is bound, so it does not matter that the keyword is left out. -/
theorem values_conditionClause (keyword : String) (conditions : List Condition) :
    (Template.clause (!conditions.isEmpty) keyword (s.conditions conditions)).values =
      (s.conditions conditions).values := by
  cases conditions with
  | nil => rfl
  | cons condition rest => simp [values_clause]

mutual

theorem values_assemble : ∀ statement : Statement,
    (s.assemble statement).values = statement.parameters
  | ⟨source, action, columns, distinct, joins, wheres, groups, havings, orders, unions, limit,
      offset, lock⟩ => by
    have hwheres := values_conditions wheres
    cases action with
    | select =>
        have hhavings : (if (!havings.isEmpty) = true then (s.conditions havings).values else []) =
            conditionParameters havings := by
          rw [values_conditions havings]
          cases havings <;> rfl
        simp only [assemble, Statement.parameters, values_append, values_text, values_joins,
          values_grouping, values_ordering, values_conditionClause, hwheres, hhavings,
          values_members unions, List.append_assoc, List.nil_append, List.append_nil]
    | insert body => exact values_insertion s source body
    | update body =>
        simp only [assemble, Statement.parameters, values_append, values_text,
          values_assignments, values_conditionClause, hwheres, List.nil_append]
    | delete =>
        simp only [assemble, Statement.parameters, values_append, values_text,
          values_conditionClause, hwheres, List.nil_append]
    | truncate cascade => exact values_text _
termination_by structural statement => statement

theorem values_conditions : ∀ conditions : List Condition,
    (s.conditions conditions).values = conditionParameters conditions
  | [] => rfl
  | condition :: rest => by
    simp only [conditions, conditionParameters, values_append, values_conditionBody condition,
      values_linked rest]
termination_by structural conditions => conditions

theorem values_linked : ∀ conditions : List Condition,
    (s.linked conditions).values = conditionParameters conditions
  | [] => rfl
  | condition :: rest => by
    simp only [linked, conditionParameters, values_append, values_link condition,
      values_linked rest]
termination_by structural conditions => conditions

theorem values_link : ∀ condition : Condition,
    (s.link condition).values = condition.parameters
  | ⟨joiner, body⟩ => by
    simp only [link, Condition.parameters, values_append, values_text, values_predicate body,
      List.nil_append]
termination_by structural condition => condition

theorem values_conditionBody : ∀ condition : Condition,
    (s.conditionBody condition).values = condition.parameters
  | ⟨_, body⟩ => values_predicate body
termination_by structural condition => condition

theorem values_predicate : ∀ predicate : Predicate,
    (s.predicate predicate).values = predicate.parameters
  | .test t => values_test s t
  | .hasRows source negated => by
    simp only [predicate, Predicate.parameters, values_append, values_text,
      values_subquery source, List.nil_append, List.append_nil]
termination_by structural predicate => predicate

theorem values_subquery : ∀ subquery : Subquery,
    (s.subquery subquery).values = subquery.parameters
  | .statement statement => values_assemble statement
  | .raw f => values_fragment f
termination_by structural subquery => subquery

theorem values_members : ∀ members : List UnionMember,
    (s.members members).values = memberParameters members
  | [] => rfl
  | first :: rest => by
    simp only [members, memberParameters, values_append, values_member first,
      values_members rest]
termination_by structural members => members

theorem values_member : ∀ member : UnionMember,
    (s.member member).values = member.parameters
  | ⟨all, source⟩ => by
    simp only [member, UnionMember.parameters, values_append, values_text,
      values_subquery source, List.nil_append]
termination_by structural member => member

end

end Spelling

/-! ## Renamed columns -/

section
variable (rename : String → String)

theorem parameters_renameJoin (j : Join) : (renameJoin rename j).parameters = j.parameters := by
  obtain ⟨kind, target, on⟩ := j
  cases on with
  | none => rfl
  | some on => cases on <;> rfl

theorem parameters_mapFields (t : Test) : (t.mapFields rename).parameters = t.parameters := by
  cases t <;> rfl

theorem parameters_renameGroup (g : Group) :
    (renameGroup rename g).parameters = g.parameters := by
  cases g <;> rfl

theorem parameters_renameOrder (o : Order) :
    (renameOrder rename o).parameters = o.parameters := by
  cases o <;> rfl

theorem parameters_renameAssignment (a : Assignment) :
    (renameAssignment rename a).parameters = a.parameters := by
  cases a <;> rfl

end

section
variable (rename : Scope → String → String)

mutual

/-- Other names for columns change nothing about what is bound. -/
theorem parameters_renameStatement : ∀ (scope : Scope) (statement : Statement),
    (renameStatement rename scope statement).parameters = statement.parameters
  | outer, ⟨source, action, columns, distinct, joins, wheres, groups, havings, orders, unions,
      limit, offset, lock⟩ => by
    have hwheres := parameters_renameConditions (outer.enter source joins) wheres
    have hhavings := parameters_renameConditions (outer.enter source joins) havings
    have hunions := parameters_renameMembers unions
    cases action with
    | select =>
        simp only [renameStatement, renameAction, Statement.parameters, List.flatMap_map,
          parameters_renameJoin, parameters_renameGroup, parameters_renameOrder,
          List.isEmpty_map, hwheres, hhavings, hunions]
    | insert body => rfl
    | update body =>
        cases body with
        | assignments sets =>
            simp only [renameStatement, renameAction, Statement.parameters,
              UpdateBody.parameters, List.flatMap_map, parameters_renameAssignment, hwheres]
        | raw f => simp only [renameStatement, renameAction, Statement.parameters, hwheres]
    | delete => simp only [renameStatement, renameAction, Statement.parameters, hwheres]
    | truncate cascade => rfl
termination_by structural _ statement => statement

theorem parameters_renameConditions : ∀ (scope : Scope) (conditions : List Condition),
    conditionParameters (renameConditions rename scope conditions) =
      conditionParameters conditions
  | _, [] => rfl
  | scope, condition :: rest => by
    simp only [renameConditions, conditionParameters,
      parameters_renameCondition scope condition, parameters_renameConditions scope rest]
termination_by structural _ conditions => conditions

theorem parameters_renameCondition : ∀ (scope : Scope) (condition : Condition),
    (renameCondition rename scope condition).parameters = condition.parameters
  | scope, ⟨_, body⟩ => parameters_renamePredicate scope body
termination_by structural _ condition => condition

theorem parameters_renamePredicate : ∀ (scope : Scope) (predicate : Predicate),
    (renamePredicate rename scope predicate).parameters = predicate.parameters
  | scope, .test t => parameters_mapFields (rename scope) t
  | scope, .hasRows source _ => parameters_renameSubquery scope source
termination_by structural _ predicate => predicate

theorem parameters_renameSubquery : ∀ (scope : Scope) (subquery : Subquery),
    (renameSubquery rename scope subquery).parameters = subquery.parameters
  | scope, .statement statement => parameters_renameStatement scope statement
  | _, .raw _ => rfl
termination_by structural _ subquery => subquery

theorem parameters_renameMembers : ∀ members : List UnionMember,
    memberParameters (renameMembers rename members) = memberParameters members
  | [] => rfl
  | first :: rest => by
    simp only [renameMembers, memberParameters, parameters_renameMember first,
      parameters_renameMembers rest]
termination_by structural members => members

theorem parameters_renameMember : ∀ member : UnionMember,
    (renameMember rename member).parameters = member.parameters
  | ⟨_, source⟩ => parameters_renameSubquery Scope.empty source
termination_by structural member => member

end

end

/-- The holes of a statement's template hold its parameters. -/
theorem Spelling.values_template (s : Spelling) (statement : Statement) :
    (s.template statement).values = statement.parameters := by
  unfold template
  split
  · exact values_assemble s statement
  · rw [values_assemble, withPrefixes, parameters_renameStatement]

/-- Every dialect binds the parameters of the statement behind what is bound already. -/
theorem values_compileAfter (d : Dialect) (bound : List Value) (statement : Statement) :
    (d.compileAfter bound statement).values = bound ++ statement.parameters := by
  rw [compileAfter_eq, Spelling.values_template]

end Sql

end BoundSql
