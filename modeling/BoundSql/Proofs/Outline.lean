import BoundSql.Proofs.Template.Statement

/-!
# Outlines

The outline of a statement forgets what its values are and how large its bounds on the number of
rows are; it keeps how many values there are and whether a bound is positive. `sql_eq_of_outline_eq`
says that statements of one outline compile to one text: no value can change the SQL.

The proof compares shapes. The shape of a template is its text with a gap for every hole, and it
settles what is written.
-/

namespace BoundSql

/-! ## Outlines of clauses -/

/-- Every value is taken for null. -/
def blank (_ : Value) : Value := .null

def Fragment.outline (f : Fragment) : Fragment :=
  { f with values := f.values.map blank }

def JoinTarget.outline : JoinTarget → JoinTarget
  | .table t => .table t
  | .raw f => .raw f.outline

def JoinOn.outline : JoinOn → JoinOn
  | .key name => .key name
  | .columns own op joined => .columns own op joined
  | .raw f => .raw f.outline

def Join.outline (j : Join) : Join :=
  { j with target := j.target.outline, on := j.on.map JoinOn.outline }

def Test.outline : Test → Test
  | .compare field op value => .compare field op (blank value)
  | .raw f => .raw f.outline
  | .within field values negated => .within field (values.map blank) negated
  | .null field negated => .null field negated
  | .between field low high inclusive negated =>
    .between field (blank low) (blank high) inclusive negated
  | .columns first op second => .columns first op second
  | .datePart part field op value => .datePart part field op (blank value)

def Group.outline : Group → Group
  | .field name => .field name
  | .raw f => .raw f.outline

def Order.outline : Order → Order
  | .field name ascending => .field name ascending
  | .raw f => .raw f.outline
  | .random => .random

/-- A bound on the number of rows is taken for one if it is positive, and for zero if not. -/
def rowBoundOutline (rows : Option Int64) : Option Int64 :=
  rows.map fun n => if 0 < n then 1 else 0

def InsertBody.outline : InsertBody → InsertBody
  | .rows fields cells => .rows fields (cells.map (List.map blank))
  | .raw f => .raw f.outline

def Assignment.outline : Assignment → Assignment
  | .set field value => .set field (blank value)
  | .step field negative amount => .step field negative (blank amount)

def UpdateBody.outline : UpdateBody → UpdateBody
  | .assignments sets => .assignments (sets.map Assignment.outline)
  | .raw f => .raw f.outline

def Action.outline : Action → Action
  | .select => .select
  | .insert body => .insert body.outline
  | .update body => .update body.outline
  | .delete => .delete
  | .truncate cascade => .truncate cascade

/-! ## Outlines of statements -/

mutual

/-- The statement without what its values are. -/
def Statement.outline : Statement → Statement
  | ⟨source, action, columns, distinct, joins, wheres, groups, havings, orders, unions, limit,
      offset, lock⟩ =>
    { source, columns, distinct, lock
      action := action.outline
      joins := joins.map Join.outline
      wheres := conditionOutlines wheres
      groups := groups.map Group.outline
      havings := conditionOutlines havings
      orders := orders.map Order.outline
      unions := memberOutlines unions
      limit := rowBoundOutline limit
      offset := rowBoundOutline offset }
termination_by structural statement => statement

def conditionOutlines : List Condition → List Condition
  | [] => []
  | condition :: rest => condition.outline :: conditionOutlines rest
termination_by structural conditions => conditions

def Condition.outline : Condition → Condition
  | ⟨joiner, body⟩ => ⟨joiner, body.outline⟩
termination_by structural condition => condition

def Predicate.outline : Predicate → Predicate
  | .test t => .test t.outline
  | .hasRows source negated => .hasRows source.outline negated
termination_by structural predicate => predicate

def Subquery.outline : Subquery → Subquery
  | .statement statement => .statement statement.outline
  | .raw f => .raw f.outline
termination_by structural subquery => subquery

def memberOutlines : List UnionMember → List UnionMember
  | [] => []
  | first :: rest => first.outline :: memberOutlines rest
termination_by structural members => members

def UnionMember.outline : UnionMember → UnionMember
  | ⟨all, source⟩ => ⟨all, source.outline⟩
termination_by structural member => member

end

namespace Sql

/-! ## Shapes -/

namespace Template

/-- The text alone, with a gap for every hole. -/
def shape (t : Template) : List (Option Char) :=
  t.map fun
    | .char c => some c
    | .bind _ => none

@[simp] theorem shape_append (a b : Template) : shape (a ++ b) = shape a ++ shape b :=
  List.map_append

@[simp] theorem shape_hole (v : Value) : shape (hole v) = [none] := rfl

/-- Templates of one shape are written alike. -/
theorem write_eq_of_shape_eq (p : Nat → String) {a b : Template} (h : shape a = shape b)
    (n : Nat) : write p n a = write p n b := by
  induction a generalizing b n with
  | nil =>
      cases b with
      | nil => rfl
      | cons piece b => simp [shape] at h
  | cons piece a ih =>
      cases b with
      | nil => simp [shape] at h
      | cons piece' b =>
          obtain ⟨hpiece, htail⟩ := List.cons.inj (show _ :: shape a = _ :: shape b from h)
          cases piece with
          | char c =>
              cases piece' with
              | char c' =>
                  obtain rfl := Option.some.inj hpiece
                  exact congrArg (c :: ·) (ih htail n)
              | bind v' => cases hpiece
          | bind v =>
              cases piece' with
              | char c' => cases hpiece
              | bind v' => exact congrArg (_ ++ ·) (ih htail (n + 1))

/-- Lists are of one shape if their items are. -/
theorem shape_listed {α : Type} (template : α → Template) (change : α → α)
    (h : ∀ a, shape (template (change a)) = shape (template a)) (items : List α) :
    shape (listed template (items.map change)) = shape (listed template items) := by
  induction items with
  | nil => rfl
  | cons a items ih =>
      cases items with
      | nil => simpa [listed] using h a
      | cons b items =>
          simp only [List.map_cons] at ih ⊢
          simp only [listed_cons_cons, shape_append, h, ih]

theorem shape_clause (present : Bool) (keyword : String) {a b : Template}
    (h : shape a = shape b) :
    shape (clause present keyword a) = shape (clause present keyword b) := by
  cases present with
  | false => rfl
  | true => simp [clause, h]

/-- What a scan leaves of a fragment depends on the number of its values alone. -/
theorem shape_scan (values : List Value) (pending : Option (List Char)) (cs : List Char) :
    shape (scan (values.map blank) pending cs) = shape (scan values pending cs) := by
  have hmarker (digits : List Char) :
      shape (marker (values.map blank) digits) = shape (marker values digits) := by
    unfold marker
    rw [List.getElem?_map]
    cases values[Text.digitsValue digits]? <;> rfl
  induction cs generalizing pending with
  | nil => cases pending <;> rfl
  | cons c rest ih =>
      cases pending with
      | none =>
          simp only [scan]
          split <;> simp only [shape_append, ih]
      | some digits =>
          simp only [scan]
          split
          · exact ih _
          · split
            · simp only [shape_append, hmarker, ih]
            · split <;> simp only [shape_append, ih]

theorem shape_fragment (f : Fragment) : shape (fragment f.outline) = shape (fragment f) :=
  shape_scan f.values none f.signature.toList

end Template

open Template

namespace Spelling
variable (s : Spelling)

theorem shape_joinTarget (target : JoinTarget) :
    shape (s.joinTarget target.outline) = shape (s.joinTarget target) := by
  cases target with
  | table t => rfl
  | raw f => exact shape_fragment f

theorem joinedColumn_outline (target : JoinTarget) (column : String) :
    s.joinedColumn target.outline column = s.joinedColumn target column := by
  cases target <;> rfl

theorem shape_joinOn (own : String) (target : JoinTarget) (on : JoinOn) :
    shape (s.joinOn own target.outline on.outline) = shape (s.joinOn own target on) := by
  cases on with
  | key name => simp only [joinOn, JoinOn.outline, joinedColumn_outline]
  | columns own op joined => simp only [joinOn, JoinOn.outline, joinedColumn_outline]
  | raw f => exact shape_fragment f

theorem shape_join (own : String) (j : Join) :
    shape (s.join own j.outline) = shape (s.join own j) := by
  obtain ⟨kind, target, on⟩ := j
  cases on with
  | none => simp only [join, Join.outline, Option.map_none, shape_append, shape_joinTarget]
  | some on =>
      simp only [join, Join.outline, Option.map_some, shape_append, shape_joinTarget,
        shape_joinOn]

theorem shape_joins (source : Source) (joins : List Join) :
    shape (s.joins source (joins.map Join.outline)) = shape (s.joins source joins) := by
  induction joins with
  | nil => rfl
  | cons j rest ih => simp only [Spelling.joins, List.map_cons, shape_append, shape_join, ih]

theorem shape_test (t : Test) : shape (s.test t.outline) = shape (s.test t) := by
  cases t with
  | compare field op value => simp only [test, Test.outline, shape_append, shape_hole]
  | raw f => exact shape_fragment f
  | within field values negated =>
      have hlist := shape_listed hole blank (fun _ => rfl) values
      simp only [test, Test.outline, List.isEmpty_map]
      split <;> simp only [shape_append, hlist]
  | null field negated => rfl
  | between field low high inclusive negated =>
      cases negated <;> cases inclusive <;>
        simp only [test, Test.outline, shape_append, shape_hole]
  | columns first op second => rfl
  | datePart part field op value => simp only [test, Test.outline, shape_append, shape_hole]

theorem shape_group (g : Group) : shape (s.group g.outline) = shape (s.group g) := by
  cases g with
  | field name => rfl
  | raw f => exact shape_fragment f

theorem shape_order (o : Order) : shape (s.order o.outline) = shape (s.order o) := by
  cases o with
  | field name ascending => rfl
  | raw f => exact shape_fragment f
  | random => rfl

/-- Whether a bound on the number of rows is written depends on its sign alone. -/
theorem shape_rowBound (keyword : String) (rows : Option Int64) :
    shape (rowBound keyword (rowBoundOutline rows)) = shape (rowBound keyword rows) := by
  cases rows with
  | none => rfl
  | some n =>
      by_cases h : 0 < n
      · simp [rowBound, rowBoundOutline, h, clause]
      · simp [rowBound, rowBoundOutline, h, clause]

theorem shape_grouping (groups : List Group) (hasHavings : Bool) {a b : Template}
    (h : shape a = shape b) :
    shape (s.grouping (groups.map Group.outline) hasHavings a) =
      shape (s.grouping groups hasHavings b) := by
  unfold grouping
  rw [List.isEmpty_map]
  apply shape_clause
  rw [shape_append, shape_append, shape_listed _ _ s.shape_group, shape_clause _ _ h]

theorem shape_ordering (orders : List Order) (limit offset : Option Int64) :
    shape (s.ordering (orders.map Order.outline) (rowBoundOutline limit)
        (rowBoundOutline offset)) = shape (s.ordering orders limit offset) := by
  have horders := shape_clause (!orders.isEmpty) " ORDER BY "
    (shape_listed _ _ s.shape_order orders)
  simp only [ordering, List.isEmpty_map, shape_append, horders, shape_rowBound]

theorem shape_insertion (source : Source) (body : InsertBody) :
    shape (s.insertion source body.outline) = shape (s.insertion source body) := by
  cases body with
  | rows fields cells =>
      have hcells (row : List Value) : shape (rowCells (row.map blank)) = shape (rowCells row) := by
        have hlist := shape_listed hole blank (fun _ => rfl) row
        simp only [rowCells, shape_append, hlist]
      simp only [insertion, InsertBody.outline, shape_append, shape_listed _ _ hcells]
  | raw f => simp only [insertion, InsertBody.outline, shape_append, shape_fragment]

theorem shape_assignments (body : UpdateBody) :
    shape (s.assignments body.outline) = shape (s.assignments body) := by
  cases body with
  | assignments sets =>
      apply shape_listed
      intro a
      cases a <;> simp only [assignment, Assignment.outline, shape_append, shape_hole]
  | raw f => exact shape_fragment f

theorem isEmpty_conditionOutlines (conditions : List Condition) :
    (conditionOutlines conditions).isEmpty = conditions.isEmpty := by
  cases conditions <;> rfl

mutual

theorem shape_assemble : ∀ statement : Statement,
    shape (s.assemble statement.outline) = shape (s.assemble statement)
  | ⟨source, action, columns, distinct, joins, wheres, groups, havings, orders, unions, limit,
      offset, lock⟩ => by
    have hwheres := shape_clause (!wheres.isEmpty) " WHERE " (shape_conditions wheres)
    have hunions := shape_members unions
    cases action with
    | select =>
        have hgroups := s.shape_grouping groups (!havings.isEmpty) (shape_conditions havings)
        simp only [assemble, Statement.outline, Action.outline, isEmpty_conditionOutlines,
          shape_append, shape_joins, hwheres, hgroups, shape_ordering, hunions]
    | insert body => exact shape_insertion s source body
    | update body =>
        simp only [assemble, Statement.outline, Action.outline, isEmpty_conditionOutlines,
          shape_append, shape_assignments, hwheres]
    | delete =>
        simp only [assemble, Statement.outline, Action.outline, isEmpty_conditionOutlines,
          shape_append, hwheres]
    | truncate cascade => rfl
termination_by structural statement => statement

theorem shape_conditions : ∀ conditions : List Condition,
    shape (s.conditions (conditionOutlines conditions)) = shape (s.conditions conditions)
  | [] => rfl
  | condition :: rest => by
    simp only [conditions, conditionOutlines, shape_append, shape_conditionBody condition,
      shape_linked rest]
termination_by structural conditions => conditions

theorem shape_linked : ∀ conditions : List Condition,
    shape (s.linked (conditionOutlines conditions)) = shape (s.linked conditions)
  | [] => rfl
  | condition :: rest => by
    simp only [linked, conditionOutlines, shape_append, shape_link condition, shape_linked rest]
termination_by structural conditions => conditions

theorem shape_link : ∀ condition : Condition,
    shape (s.link condition.outline) = shape (s.link condition)
  | ⟨joiner, body⟩ => by
    simp only [link, Condition.outline, shape_append, shape_predicate body]
termination_by structural condition => condition

theorem shape_conditionBody : ∀ condition : Condition,
    shape (s.conditionBody condition.outline) = shape (s.conditionBody condition)
  | ⟨_, body⟩ => shape_predicate body
termination_by structural condition => condition

theorem shape_predicate : ∀ predicate : Predicate,
    shape (s.predicate predicate.outline) = shape (s.predicate predicate)
  | .test t => shape_test s t
  | .hasRows source negated => by
    simp only [predicate, Predicate.outline, shape_append, shape_subquery source]
termination_by structural predicate => predicate

theorem shape_subquery : ∀ subquery : Subquery,
    shape (s.subquery subquery.outline) = shape (s.subquery subquery)
  | .statement statement => shape_assemble statement
  | .raw f => shape_fragment f
termination_by structural subquery => subquery

theorem shape_members : ∀ members : List UnionMember,
    shape (s.members (memberOutlines members)) = shape (s.members members)
  | [] => rfl
  | first :: rest => by
    simp only [members, memberOutlines, shape_append, shape_member first, shape_members rest]
termination_by structural members => members

theorem shape_member : ∀ member : UnionMember,
    shape (s.member member.outline) = shape (s.member member)
  | ⟨all, source⟩ => by
    simp only [member, UnionMember.outline, shape_append, shape_subquery source]
termination_by structural member => member

end

end Spelling

/-! ## Renamed columns -/

section
variable (rename : String → String)

theorem renameJoin_outline (j : Join) :
    renameJoin rename j.outline = (renameJoin rename j).outline := by
  obtain ⟨kind, target, on⟩ := j
  cases on with
  | none => rfl
  | some on => cases on <;> rfl

theorem mapFields_outline (t : Test) :
    t.outline.mapFields rename = (t.mapFields rename).outline := by
  cases t <;> rfl

theorem renameGroup_outline (g : Group) :
    renameGroup rename g.outline = (renameGroup rename g).outline := by
  cases g <;> rfl

theorem renameOrder_outline (o : Order) :
    renameOrder rename o.outline = (renameOrder rename o).outline := by
  cases o <;> rfl

theorem renameAssignment_outline (a : Assignment) :
    renameAssignment rename a.outline = (renameAssignment rename a).outline := by
  cases a <;> rfl

theorem renameAction_outline (action : Action) :
    renameAction rename action.outline = (renameAction rename action).outline := by
  cases action with
  | update body =>
      cases body with
      | assignments sets =>
          simp only [renameAction, Action.outline, UpdateBody.outline, List.map_map,
            Function.comp_def, renameAssignment_outline]
      | raw f => rfl
  | _ => rfl

/-- A scope depends on no value. -/
theorem enter_outline (outer : Scope) (source : Source) (joins : List Join) :
    outer.enter source (joins.map Join.outline) = outer.enter source joins := by
  have htables : Scope.tablesOf source (joins.map Join.outline) =
      Scope.tablesOf source joins := by
    unfold Scope.tablesOf
    rw [List.filterMap_map]
    congr 2
    funext j
    obtain ⟨kind, target, on⟩ := j
    cases target <;> rfl
  rw [Scope.enter, htables, Scope.enter]

end

section
variable (rename : Scope → String → String)

mutual

/-- Columns get the same names whatever the values are. -/
theorem renameStatement_outline : ∀ (scope : Scope) (statement : Statement),
    renameStatement rename scope statement.outline =
      (renameStatement rename scope statement).outline
  | outer, ⟨source, action, columns, distinct, joins, wheres, groups, havings, orders, unions,
      limit, offset, lock⟩ => by
    simp only [renameStatement, Statement.outline, enter_outline, renameAction_outline,
      renameConditions_outline (outer.enter source joins) wheres,
      renameConditions_outline (outer.enter source joins) havings,
      renameMembers_outline unions, List.map_map, Function.comp_def, renameJoin_outline,
      renameGroup_outline, renameOrder_outline]
termination_by structural _ statement => statement

theorem renameConditions_outline : ∀ (scope : Scope) (conditions : List Condition),
    renameConditions rename scope (conditionOutlines conditions) =
      conditionOutlines (renameConditions rename scope conditions)
  | _, [] => rfl
  | scope, condition :: rest => by
    simp only [renameConditions, conditionOutlines, renameCondition_outline scope condition,
      renameConditions_outline scope rest]
termination_by structural _ conditions => conditions

theorem renameCondition_outline : ∀ (scope : Scope) (condition : Condition),
    renameCondition rename scope condition.outline =
      (renameCondition rename scope condition).outline
  | scope, ⟨_, body⟩ => by
    simp only [renameCondition, Condition.outline, renamePredicate_outline scope body]
termination_by structural _ condition => condition

theorem renamePredicate_outline : ∀ (scope : Scope) (predicate : Predicate),
    renamePredicate rename scope predicate.outline =
      (renamePredicate rename scope predicate).outline
  | scope, .test t => congrArg Predicate.test (mapFields_outline (rename scope) t)
  | scope, .hasRows source _ => by
    simp only [renamePredicate, Predicate.outline, renameSubquery_outline scope source]
termination_by structural _ predicate => predicate

theorem renameSubquery_outline : ∀ (scope : Scope) (subquery : Subquery),
    renameSubquery rename scope subquery.outline =
      (renameSubquery rename scope subquery).outline
  | scope, .statement statement =>
    congrArg Subquery.statement (renameStatement_outline scope statement)
  | _, .raw _ => rfl
termination_by structural _ subquery => subquery

theorem renameMembers_outline : ∀ members : List UnionMember,
    renameMembers rename (memberOutlines members) = memberOutlines (renameMembers rename members)
  | [] => rfl
  | first :: rest => by
    simp only [renameMembers, memberOutlines, renameMember_outline first,
      renameMembers_outline rest]
termination_by structural members => members

theorem renameMember_outline : ∀ member : UnionMember,
    renameMember rename member.outline = (renameMember rename member).outline
  | ⟨_, source⟩ => by
    simp only [renameMember, UnionMember.outline, renameSubquery_outline Scope.empty source]
termination_by structural member => member

end

end

/-- The shape of a statement's template is that of its outline's template. -/
theorem Spelling.shape_template (s : Spelling) (statement : Statement) :
    shape (s.template statement.outline) = shape (s.template statement) := by
  unfold template
  split
  · exact shape_assemble s statement
  · rw [withPrefixes, renameStatement_outline, shape_assemble]
    rfl

/-- Statements of one outline compile to one text: no value has a part in the SQL. -/
theorem sql_eq_of_outline_eq (d : Dialect) {a b : Statement} (h : a.outline = b.outline)
    {bound bound' : List Value} (hbound : bound.length = bound'.length) :
    (d.compileAfter bound a).sql = (d.compileAfter bound' b).sql := by
  have hshape : shape (d.toSpelling.template a) = shape (d.toSpelling.template b) := by
    rw [← Spelling.shape_template, h, Spelling.shape_template]
  simp only [compileAfter_eq, hbound, write_eq_of_shape_eq d.placeholder hshape]

/-- Some of the posts that an author has commented on. -/
def commentedPosts (author : Value) (most : Int64) : Statement :=
  { source := .table ⟨"posts", none⟩
    wheres := [⟨.and, .hasRows (.statement
      { source := .table ⟨"comments", none⟩
        wheres := [.ofTest .and (.columns "comments.post_id" "=" "posts.id"),
          .ofTest .and (.raw ⟨"{0} IN (author, editor)", [author]⟩)] }) false⟩]
    limit := some most }

theorem sql_eq_commentedPosts :
    (commentedPosts (.text "0) OR (1 = 1") 3).outline = (commentedPosts (.int 7) 20).outline ∧
      [Value.null].length = [Value.bool true].length ∧
      ((Dialect.postgres.withPrefix "wp_").compileAfter [.null]
          (commentedPosts (.text "0) OR (1 = 1") 3)).sql =
        ((Dialect.postgres.withPrefix "wp_").compileAfter [.bool true]
          (commentedPosts (.int 7) 20)).sql := by
  have houtline : (commentedPosts (.text "0) OR (1 = 1") 3).outline =
      (commentedPosts (.int 7) 20).outline := by
    simp [commentedPosts, Condition.ofTest, Statement.outline, conditionOutlines,
      Condition.outline, Predicate.outline, Subquery.outline, Test.outline, Fragment.outline,
      blank, rowBoundOutline]
  exact ⟨houtline, rfl, sql_eq_of_outline_eq _ houtline rfl⟩

end Sql
end BoundSql
