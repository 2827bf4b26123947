import BoundSql.Sql.Clause

/-!
# Statements

`assemble` prints the clauses of a statement in their order: columns, source, joins, `WHERE`,
`GROUP BY` with `HAVING`, `ORDER BY`, `LIMIT`, `OFFSET`, `UNION` and the lock. Clauses that an
action has no use for are left out. A nested statement is printed in place, so its values are
bound between those of the clauses around it.
-/

namespace BoundSql.Sql.Dialect

mutual

/-- A statement whose qualifiers are final. -/
def assemble (d : Dialect) : Statement → Printer String
  | ⟨source, action, columns, distinct, joins, wheres, groups, havings, orders, unions, limit,
      offset, lock⟩ =>
    match action with
    | .select => do
      let joins ← d.joins source joins
      let wheres ← Printer.clause (!wheres.isEmpty) " WHERE " (conditions d wheres)
      let groups ← d.grouping groups (!havings.isEmpty) (conditions d havings)
      let orders ← d.ordering orders limit offset
      let unions ← members d unions
      return d.selection columns distinct source ++ joins ++ wheres ++ groups ++ orders ++
        unions ++ d.locking lock
    | .insert body => d.insertion source body
    | .update body => do
      let set ← d.assignments body
      let wheres ← Printer.clause (!wheres.isEmpty) " WHERE " (conditions d wheres)
      return "UPDATE " ++ d.source source ++ " SET " ++ set ++ wheres
    | .delete => do
      let wheres ← Printer.clause (!wheres.isEmpty) " WHERE " (conditions d wheres)
      return "DELETE FROM " ++ d.source source ++ wheres
    | .truncate cascade => return d.truncation source cascade
termination_by structural statement => statement

/-- Conditions with their links between them. The first link is left out. -/
def conditions (d : Dialect) : List Condition → Printer String
  | [] => return ""
  | condition :: rest => do
    let first ← conditionBody d condition
    return first ++ (← linked d rest)
termination_by structural conditions => conditions

/-- Conditions, each behind its link. -/
def linked (d : Dialect) : List Condition → Printer String
  | [] => return ""
  | condition :: rest => do
    let first ← link d condition
    return first ++ (← linked d rest)
termination_by structural conditions => conditions

/-- A condition behind its link. -/
def link (d : Dialect) : Condition → Printer String
  | ⟨joiner, body⟩ => do
    return " " ++ joinerKeyword joiner ++ " " ++ (← predicate d body)
termination_by structural condition => condition

/-- A condition without its link. -/
def conditionBody (d : Dialect) : Condition → Printer String
  | ⟨_, body⟩ => predicate d body
termination_by structural condition => condition

/-- A test, or whether a nested statement has rows. -/
def predicate (d : Dialect) : Predicate → Printer String
  | .test t => d.test t
  | .hasRows source negated => do
    let nested ← subquery d source
    return (if negated then "NOT EXISTS (" else "EXISTS (") ++ nested ++ ")"
termination_by structural predicate => predicate

/-- A nested statement. -/
def subquery (d : Dialect) : Subquery → Printer String
  | .statement statement => assemble d statement
  | .raw f => d.fill f
termination_by structural subquery => subquery

/-- Statements whose rows are appended. -/
def members (d : Dialect) : List UnionMember → Printer String
  | [] => return ""
  | first :: rest => do
    let first ← member d first
    return first ++ (← members d rest)
termination_by structural members => members

/-- A statement whose rows are appended. -/
def member (d : Dialect) : UnionMember → Printer String
  | ⟨all, source⟩ => do
    let nested ← subquery d source
    return (if all then " UNION ALL " else " UNION ") ++ nested
termination_by structural member => member

end

end BoundSql.Sql.Dialect
