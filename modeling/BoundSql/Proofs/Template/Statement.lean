import BoundSql.Proofs.Template.Clause
import BoundSql.Sql.Compile

/-!
# Templates of statements

`print_template` says that compiling a statement prints its template: there is one text with holes
for every statement and spelling, whatever is bound before and however placeholders look. What is
proved of the templates therefore holds of everything that is compiled.

The proof goes over the five types that recur through one another, so that every printer is shown
to print its template while those of the nested statements are assumed to.
-/

namespace BoundSql.Sql

open Template

namespace Spelling

mutual

/-- The template of a statement whose qualifiers are final. -/
def assemble (s : Spelling) : Statement → Template
  | ⟨source, action, columns, distinct, joins, wheres, groups, havings, orders, unions, limit,
      offset, lock⟩ =>
    match action with
    | .select =>
      text (s.selection columns distinct source) ++ s.joins source joins ++
        Template.clause (!wheres.isEmpty) " WHERE " (conditions s wheres) ++
        s.grouping groups (!havings.isEmpty) (conditions s havings) ++
        s.ordering orders limit offset ++ members s unions ++ text (s.locking lock)
    | .insert body => s.insertion source body
    | .update body =>
      text ("UPDATE " ++ s.source source ++ " SET ") ++ s.assignments body ++
        Template.clause (!wheres.isEmpty) " WHERE " (conditions s wheres)
    | .delete =>
      text ("DELETE FROM " ++ s.source source) ++
        Template.clause (!wheres.isEmpty) " WHERE " (conditions s wheres)
    | .truncate cascade => text (s.truncation source cascade)
termination_by structural statement => statement

/-- Conditions with their links between them. The first link is left out. -/
def conditions (s : Spelling) : List Condition → Template
  | [] => []
  | condition :: rest => conditionBody s condition ++ linked s rest
termination_by structural conditions => conditions

/-- Conditions, each behind its link. -/
def linked (s : Spelling) : List Condition → Template
  | [] => []
  | condition :: rest => link s condition ++ linked s rest
termination_by structural conditions => conditions

/-- A condition behind its link. -/
def link (s : Spelling) : Condition → Template
  | ⟨joiner, body⟩ => text (" " ++ joinerKeyword joiner ++ " ") ++ predicate s body
termination_by structural condition => condition

/-- A condition without its link. -/
def conditionBody (s : Spelling) : Condition → Template
  | ⟨_, body⟩ => predicate s body
termination_by structural condition => condition

/-- A test, or whether a nested statement has rows. -/
def predicate (s : Spelling) : Predicate → Template
  | .test t => s.test t
  | .hasRows source negated =>
    text (if negated then "NOT EXISTS (" else "EXISTS (") ++ subquery s source ++ text ")"
termination_by structural predicate => predicate

/-- A nested statement. -/
def subquery (s : Spelling) : Subquery → Template
  | .statement statement => assemble s statement
  | .raw f => fragment f
termination_by structural subquery => subquery

/-- Statements whose rows are appended. -/
def members (s : Spelling) : List UnionMember → Template
  | [] => []
  | first :: rest => member s first ++ members s rest
termination_by structural members => members

/-- A statement whose rows are appended. -/
def member (s : Spelling) : UnionMember → Template
  | ⟨all, source⟩ => text (if all then " UNION ALL " else " UNION ") ++ subquery s source
termination_by structural member => member

end

/-- The template of a statement, in which the qualifiers that name tables get their prefix
first. -/
def template (s : Spelling) (statement : Statement) : Template :=
  if s.tablePrefix.isEmpty then s.assemble statement
  else s.assemble (withPrefixes s.tablePrefix statement)

end Spelling

/-! ## Printers of statements -/

variable (d : Dialect)

mutual

theorem print_assemble : ∀ statement : Statement,
    (d.toSpelling.assemble statement).print d.placeholder = d.assemble statement
  | ⟨source, action, columns, distinct, joins, wheres, groups, havings, orders, unions, limit,
      offset, lock⟩ => by
    have hwheres := print_conditions wheres
    have hhavings := print_conditions havings
    have hunions := print_members unions
    cases action with
    | select =>
        simp only [Spelling.assemble, Dialect.assemble, print_append, print_text, print_joins,
          print_clause, print_grouping, print_ordering, hwheres, hhavings, hunions, bind_assoc,
          pure_bind]
    | insert body => exact print_insertion d source body
    | update body =>
        simp only [Spelling.assemble, Dialect.assemble, print_append, print_text,
          print_assignments, print_clause, hwheres, bind_assoc, pure_bind]
    | delete =>
        simp only [Spelling.assemble, Dialect.assemble, print_append, print_text, print_clause,
          hwheres, pure_bind]
    | truncate cascade => exact print_text _ _
termination_by structural statement => statement

theorem print_conditions : ∀ conditions : List Condition,
    (d.toSpelling.conditions conditions).print d.placeholder = d.conditions conditions
  | [] => print_nil _
  | condition :: rest => by
    simp only [Spelling.conditions, Dialect.conditions, print_append,
      print_conditionBody condition, print_linked rest]
termination_by structural conditions => conditions

theorem print_linked : ∀ conditions : List Condition,
    (d.toSpelling.linked conditions).print d.placeholder = d.linked conditions
  | [] => print_nil _
  | condition :: rest => by
    simp only [Spelling.linked, Dialect.linked, print_append, print_link condition,
      print_linked rest]
termination_by structural conditions => conditions

theorem print_link : ∀ condition : Condition,
    (d.toSpelling.link condition).print d.placeholder = d.link condition
  | ⟨joiner, body⟩ => by
    simp only [Spelling.link, Dialect.link, print_append, print_text, print_predicate body,
      pure_bind]
termination_by structural condition => condition

theorem print_conditionBody : ∀ condition : Condition,
    (d.toSpelling.conditionBody condition).print d.placeholder = d.conditionBody condition
  | ⟨_, body⟩ => print_predicate body
termination_by structural condition => condition

theorem print_predicate : ∀ predicate : Predicate,
    (d.toSpelling.predicate predicate).print d.placeholder = d.predicate predicate
  | .test t => print_test d t
  | .hasRows source negated => by
    simp only [Spelling.predicate, Dialect.predicate, print_append, print_text,
      print_subquery source, bind_assoc, pure_bind]
termination_by structural predicate => predicate

theorem print_subquery : ∀ subquery : Subquery,
    (d.toSpelling.subquery subquery).print d.placeholder = d.subquery subquery
  | .statement statement => print_assemble statement
  | .raw f => print_fragment d f
termination_by structural subquery => subquery

theorem print_members : ∀ members : List UnionMember,
    (d.toSpelling.members members).print d.placeholder = d.members members
  | [] => print_nil _
  | first :: rest => by
    simp only [Spelling.members, Dialect.members, print_append, print_member first,
      print_members rest]
termination_by structural members => members

theorem print_member : ∀ member : UnionMember,
    (d.toSpelling.member member).print d.placeholder = d.member member
  | ⟨all, source⟩ => by
    simp only [Spelling.member, Dialect.member, print_append, print_text, print_subquery source,
      pure_bind]
termination_by structural member => member

end

/-- Compiling a statement prints its template. -/
theorem print_template (statement : Statement) :
    (d.toSpelling.template statement).print d.placeholder = d.statement statement := by
  unfold Spelling.template Dialect.statement
  split <;> exact print_assemble d _

/-- What is compiled is the template written behind the values that are bound already. -/
theorem compileAfter_eq (bound : List Value) (statement : Statement) :
    d.compileAfter bound statement =
      { sql := .ofList ((d.toSpelling.template statement).write d.placeholder bound.length)
        values := bound ++ (d.toSpelling.template statement).values } := by
  rw [Dialect.compileAfter, ← print_template]
  rfl

end BoundSql.Sql
