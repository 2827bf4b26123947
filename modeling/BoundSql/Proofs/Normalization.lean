import BoundSql.Sql.Compile

/-!
# Normal statements

Some clauses of a statement have no part in its text: conditions on groups without a grouping,
bounds on the number of rows that are not positive, the link of a first condition, and everything
that the action has no use for. The normal form of a statement leaves them out, here and in all
statements nested in it. `compileAfter_normalize` says that a statement compiles like its normal
form, so that nothing in these clauses is ever observed, neither their values nor the statements in
them.

An update or a deletion keeps its joins. They are not written, but their tables are in view, and
with a prefix for tables they settle what the columns of its conditions are written as.
-/

namespace BoundSql

/-! ## Normal forms -/

/-- The source by its own name. -/
def Source.withoutAlias : Source → Source
  | .table t => .table { t with asName := none }
  | .raw text => .raw text

/-- The conditions with the first of them linked by `AND`. -/
def leadByAnd : List Condition → List Condition
  | [] => []
  | first :: rest => { first with joiner := .and } :: rest

mutual

/-- The statement without the clauses that are not written. -/
def Statement.normalize : Statement → Statement
  | ⟨source, action, columns, distinct, joins, wheres, groups, havings, orders, unions, limit,
      offset, lock⟩ =>
    match action with
    | .select =>
      { source, action := .select, columns, distinct, joins, groups, orders, lock
        wheres := leadByAnd (normalConditions wheres)
        havings := if groups.isEmpty then [] else leadByAnd (normalConditions havings)
        unions := normalMembers unions
        limit := limit.filter (0 < ·)
        offset := offset.filter (0 < ·) }
    | .insert body => { source := source.withoutAlias, action := .insert body }
    | .update body =>
      { source, action := .update body, joins, wheres := leadByAnd (normalConditions wheres) }
    | .delete =>
      { source, action := .delete, joins, wheres := leadByAnd (normalConditions wheres) }
    | .truncate cascade => { source := source.withoutAlias, action := .truncate cascade }
termination_by structural statement => statement

def normalConditions : List Condition → List Condition
  | [] => []
  | condition :: rest => condition.normalize :: normalConditions rest
termination_by structural conditions => conditions

def Condition.normalize : Condition → Condition
  | ⟨joiner, body⟩ => ⟨joiner, body.normalize⟩
termination_by structural condition => condition

def Predicate.normalize : Predicate → Predicate
  | .test t => .test t
  | .hasRows source negated => .hasRows source.normalize negated
termination_by structural predicate => predicate

def Subquery.normalize : Subquery → Subquery
  | .statement statement => .statement statement.normalize
  | .raw f => .raw f
termination_by structural subquery => subquery

def normalMembers : List UnionMember → List UnionMember
  | [] => []
  | first :: rest => first.normalize :: normalMembers rest
termination_by structural members => members

def UnionMember.normalize : UnionMember → UnionMember
  | ⟨all, source⟩ => ⟨all, source.normalize⟩
termination_by structural member => member

end

@[simp] theorem isEmpty_leadByAnd (conditions : List Condition) :
    (leadByAnd conditions).isEmpty = conditions.isEmpty := by
  cases conditions <;> rfl

@[simp] theorem isEmpty_normalConditions (conditions : List Condition) :
    (normalConditions conditions).isEmpty = conditions.isEmpty := by
  cases conditions <;> rfl

namespace Sql

/-! ## What is printed -/

namespace Dialect
variable (d : Dialect)

theorem target_withoutAlias (source : Source) : d.target source.withoutAlias = d.target source := by
  cases source <;> rfl

theorem truncation_withoutAlias (source : Source) (cascade : Bool) :
    d.truncation source.withoutAlias cascade = d.truncation source cascade := by
  cases source <;> rfl

theorem insertion_withoutAlias (source : Source) (body : InsertBody) :
    d.insertion source.withoutAlias body = d.insertion source body := by
  cases body <;> simp only [insertion, target_withoutAlias]

theorem rowBound_filter (keyword : String) (rows : Option Int64) :
    d.rowBound keyword (rows.filter (0 < ·)) = d.rowBound keyword rows := by
  cases rows with
  | none => rfl
  | some n =>
      by_cases hpositive : 0 < n
      · simp [Option.filter, hpositive]
      · simp [Option.filter, rowBound, Printer.clause, hpositive]

theorem ordering_filter (orders : List Order) (limit offset : Option Int64) :
    d.ordering orders (limit.filter (0 < ·)) (offset.filter (0 < ·)) =
      d.ordering orders limit offset := by
  simp only [ordering, rowBound_filter]

theorem conditions_leadByAnd (conditions : List Condition) :
    d.conditions (leadByAnd conditions) = d.conditions conditions := by
  cases conditions with
  | nil => rfl
  | cons first rest =>
      obtain ⟨joiner, body⟩ := first
      simp only [leadByAnd, Dialect.conditions, conditionBody]

/-- Without a grouping, conditions on groups are not printed. -/
theorem grouping_congr (groups : List Group) {hasHavings hasHavings' : Bool}
    {havings havings' : Printer String}
    (h : groups.isEmpty = false → hasHavings = hasHavings' ∧ havings = havings') :
    d.grouping groups hasHavings havings = d.grouping groups hasHavings' havings' := by
  cases groups with
  | nil => rfl
  | cons g groups =>
      obtain ⟨rfl, rfl⟩ := h rfl
      rfl

mutual

/-- A statement is printed like its normal form. -/
theorem assemble_normalize : ∀ statement : Statement,
    d.assemble statement.normalize = d.assemble statement
  | ⟨source, action, columns, distinct, joins, wheres, groups, havings, orders, unions, limit,
      offset, lock⟩ => by
    have hwheres := conditions_normalConditions wheres
    have hhavings := conditions_normalConditions havings
    have hunions := members_normalMembers unions
    cases action with
    | select =>
        have hgrouping :
            d.grouping groups
                (!(if groups.isEmpty then []
                  else leadByAnd (normalConditions havings)).isEmpty)
                (d.conditions (if groups.isEmpty then []
                  else leadByAnd (normalConditions havings))) =
              d.grouping groups (!havings.isEmpty) (d.conditions havings) := by
          apply d.grouping_congr groups
          intro hgroups
          simp [hgroups, conditions_leadByAnd, hhavings]
        simp only [Statement.normalize, assemble, hgrouping, conditions_leadByAnd, hwheres,
          hunions, ordering_filter, isEmpty_leadByAnd, isEmpty_normalConditions]
    | insert body => exact d.insertion_withoutAlias source body
    | update body =>
        simp only [Statement.normalize, assemble, conditions_leadByAnd, hwheres,
          isEmpty_leadByAnd, isEmpty_normalConditions]
    | delete =>
        simp only [Statement.normalize, assemble, conditions_leadByAnd, hwheres,
          isEmpty_leadByAnd, isEmpty_normalConditions]
    | truncate cascade =>
        simp only [Statement.normalize, assemble, truncation_withoutAlias]
termination_by structural statement => statement

theorem conditions_normalConditions : ∀ conditions : List Condition,
    d.conditions (normalConditions conditions) = d.conditions conditions
  | [] => rfl
  | condition :: rest => by
    simp only [normalConditions, conditions, conditionBody_normalize condition,
      linked_normalConditions rest]
termination_by structural conditions => conditions

theorem linked_normalConditions : ∀ conditions : List Condition,
    d.linked (normalConditions conditions) = d.linked conditions
  | [] => rfl
  | condition :: rest => by
    simp only [normalConditions, linked, link_normalize condition, linked_normalConditions rest]
termination_by structural conditions => conditions

theorem link_normalize : ∀ condition : Condition,
    d.link condition.normalize = d.link condition
  | ⟨_, body⟩ => by
    simp only [Condition.normalize, link, predicate_normalize body]
termination_by structural condition => condition

theorem conditionBody_normalize : ∀ condition : Condition,
    d.conditionBody condition.normalize = d.conditionBody condition
  | ⟨_, body⟩ => predicate_normalize body
termination_by structural condition => condition

theorem predicate_normalize : ∀ predicate : Predicate,
    d.predicate predicate.normalize = d.predicate predicate
  | .test _ => rfl
  | .hasRows source _ => by
    simp only [Predicate.normalize, predicate, subquery_normalize source]
termination_by structural predicate => predicate

theorem subquery_normalize : ∀ subquery : Subquery,
    d.subquery subquery.normalize = d.subquery subquery
  | .statement statement => assemble_normalize statement
  | .raw _ => rfl
termination_by structural subquery => subquery

theorem members_normalMembers : ∀ members : List UnionMember,
    d.members (normalMembers members) = d.members members
  | [] => rfl
  | first :: rest => by
    simp only [normalMembers, members, member_normalize first, members_normalMembers rest]
termination_by structural members => members

theorem member_normalize : ∀ member : UnionMember,
    d.member member.normalize = d.member member
  | ⟨_, source⟩ => by
    simp only [UnionMember.normalize, member, subquery_normalize source]
termination_by structural member => member

end

end Dialect

/-! ## Renamed columns -/

section
variable (rename : Scope → String → String)

theorem renameConditions_leadByAnd (scope : Scope) (conditions : List Condition) :
    renameConditions rename scope (leadByAnd conditions) =
      leadByAnd (renameConditions rename scope conditions) := by
  cases conditions with
  | nil => rfl
  | cons first rest =>
      obtain ⟨joiner, body⟩ := first
      rfl

mutual

/-- The normal form keeps what is in view: other names for its columns are those of the columns of
the statement. -/
theorem renameStatement_normalize : ∀ (scope : Scope) (statement : Statement),
    renameStatement rename scope statement.normalize =
      (renameStatement rename scope statement).normalize
  | outer, ⟨source, action, columns, distinct, joins, wheres, groups, havings, orders, unions,
      limit, offset, lock⟩ => by
    have hwheres := renameConditions_normalConditions (outer.enter source joins) wheres
    have hhavings := renameConditions_normalConditions (outer.enter source joins) havings
    have hunions := renameMembers_normalMembers unions
    cases action with
    | select =>
        have hgroups : renameConditions rename (outer.enter source joins)
            (if groups.isEmpty then [] else leadByAnd (normalConditions havings)) =
              if groups.isEmpty then [] else leadByAnd (normalConditions
                (renameConditions rename (outer.enter source joins) havings)) := by
          split
          · rfl
          · rw [renameConditions_leadByAnd, hhavings]
        simp only [Statement.normalize, renameStatement, renameAction, List.isEmpty_map, hgroups,
          renameConditions_leadByAnd, hwheres, hunions]
    | insert body => rfl
    | update body =>
        cases body <;> simp only [Statement.normalize, renameStatement, renameAction,
          renameConditions_leadByAnd, hwheres, List.map_nil, renameConditions,
          renameMembers]
    | delete =>
        simp only [Statement.normalize, renameStatement, renameAction,
          renameConditions_leadByAnd, hwheres, List.map_nil, renameConditions, renameMembers]
    | truncate cascade => rfl
termination_by structural _ statement => statement

theorem renameConditions_normalConditions : ∀ (scope : Scope) (conditions : List Condition),
    renameConditions rename scope (normalConditions conditions) =
      normalConditions (renameConditions rename scope conditions)
  | _, [] => rfl
  | scope, condition :: rest => by
    simp only [normalConditions, renameConditions, renameCondition_normalize scope condition,
      renameConditions_normalConditions scope rest]
termination_by structural _ conditions => conditions

theorem renameCondition_normalize : ∀ (scope : Scope) (condition : Condition),
    renameCondition rename scope condition.normalize =
      (renameCondition rename scope condition).normalize
  | scope, ⟨joiner, body⟩ => congrArg (Condition.mk joiner) (renamePredicate_normalize scope body)
termination_by structural _ condition => condition

theorem renamePredicate_normalize : ∀ (scope : Scope) (predicate : Predicate),
    renamePredicate rename scope predicate.normalize =
      (renamePredicate rename scope predicate).normalize
  | _, .test _ => rfl
  | scope, .hasRows source negated =>
    congrArg (Predicate.hasRows · negated) (renameSubquery_normalize scope source)
termination_by structural _ predicate => predicate

theorem renameSubquery_normalize : ∀ (scope : Scope) (subquery : Subquery),
    renameSubquery rename scope subquery.normalize =
      (renameSubquery rename scope subquery).normalize
  | scope, .statement statement =>
    congrArg Subquery.statement (renameStatement_normalize scope statement)
  | _, .raw _ => rfl
termination_by structural _ subquery => subquery

theorem renameMembers_normalMembers : ∀ members : List UnionMember,
    renameMembers rename (normalMembers members) = normalMembers (renameMembers rename members)
  | [] => rfl
  | first :: rest => by
    simp only [normalMembers, renameMembers, renameMember_normalize first,
      renameMembers_normalMembers rest]
termination_by structural members => members

theorem renameMember_normalize : ∀ member : UnionMember,
    renameMember rename member.normalize = (renameMember rename member).normalize
  | ⟨all, source⟩ => congrArg (UnionMember.mk all) (renameSubquery_normalize Scope.empty source)
termination_by structural member => member

end

end

/-- A statement compiles like its normal form: clauses that are not written have no part in the text
or in the values. -/
theorem compileAfter_normalize (d : Dialect) (bound : List Value) (statement : Statement) :
    d.compileAfter bound statement.normalize = d.compileAfter bound statement := by
  have hprinted : d.statement statement.normalize = d.statement statement := by
    unfold Dialect.statement withPrefixes
    split
    · exact d.assemble_normalize statement
    · rw [renameStatement_normalize, d.assemble_normalize]
  rw [Dialect.compileAfter, hprinted, Dialect.compileAfter]

example :
    Statement.normalize
      { source := .table ⟨"posts", none⟩
        wheres := [.ofTest .or (.null "draft" true), .ofTest .or (.null "author" false)]
        havings := [⟨.and, .hasRows (.raw ⟨"SELECT {0}", [.int 7]⟩) false⟩]
        limit := some 0
        offset := some 20 } =
      { source := .table ⟨"posts", none⟩
        wheres := [.ofTest .and (.null "draft" true), .ofTest .or (.null "author" false)]
        offset := some 20 } := rfl

end Sql

end BoundSql
