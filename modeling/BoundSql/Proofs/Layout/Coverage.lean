import BoundSql.Proofs.Layout.Written

/-!
# The columns of layouts

A layout could hold a column in a segment that is fixed. `Occurs.exists_stands_column` says that
none does: in every statement of a tree, however deep, each column that a written clause names
outside of fragments is a segment of its own, at the place of that statement. `Occurs` follows the
tree of statements as it is given, and does not mention the text.
-/

namespace BoundSql

open Sql

/-! ## The columns of clauses -/

def Column.names : Column → List String
  | .field name _ => [name]
  | .raw _ => []
  | .aggregate _ name _ => [name]

def JoinOn.names : JoinOn → List String
  | .key name => [name]
  | .columns own _ joined => [own, joined]
  | .raw _ => []

def Join.names (j : Join) : List String :=
  match j.on with
  | some on => on.names
  | none => []

def Group.names : Group → List String
  | .field name => [name]
  | .raw _ => []

def Order.names : Order → List String
  | .field name _ => [name]
  | .raw _ => []
  | .random => []

def Assignment.names : Assignment → List String
  | .set name _ => [name]
  | .step name _ _ => [name]

/-- The columns that an update sets. -/
def Action.names : Action → List String
  | .update (.assignments sets) => sets.flatMap Assignment.names
  | _ => []

/-- The columns of a test. A nested statement has columns of its own. -/
def Condition.names (c : Condition) : List String :=
  match c.predicate with
  | .test t => t.fields
  | .hasRows _ _ => []

namespace Statement
variable (statement : Statement)

/-- The conditions that are written. Those on groups are, if there are groups. -/
def writtenConditions : List Condition :=
  match statement.action with
  | .select => statement.wheres ++ if statement.groups.isEmpty then [] else statement.havings
  | .update _ => statement.wheres
  | .delete => statement.wheres
  | _ => []

/-- The statements that are appended. -/
def writtenMembers : List UnionMember :=
  match statement.action with
  | .select => statement.unions
  | _ => []

/-- The columns that the written clauses of a statement name. -/
def writtenNames : List String :=
  match statement.action with
  | .select =>
    statement.columns.flatMap Column.names ++ statement.joins.flatMap Join.names ++
      statement.writtenConditions.flatMap Condition.names ++
      statement.groups.flatMap Group.names ++ statement.orders.flatMap Order.names
  | action => action.names ++ statement.writtenConditions.flatMap Condition.names

end Statement

namespace Sql

/-! ## Segments of clauses -/

namespace Layout

section
variable (s : Spelling) {segment : Segment}

theorem mem_listed {α : Type} (layout : α → Layout) {items : List α} {a : α} (ha : a ∈ items)
    (h : segment ∈ layout a) : segment ∈ listed layout items := by
  induction items with
  | nil => cases ha
  | cons b items ih =>
      cases items with
      | nil =>
          obtain rfl := List.mem_singleton.mp ha
          simpa [listed] using h
      | cons c items =>
          rw [listed, List.map_cons, List.map_cons, List.intercalate_cons_cons]
          obtain rfl | ha := List.mem_cons.mp ha
          · exact List.mem_append_left _ (List.mem_append_left _ h)
          · exact List.mem_append_right _ (ih ha)

theorem mem_clause {present : Bool} {keyword : String} {body : Layout} (hpresent : present = true)
    (h : segment ∈ body) : segment ∈ clause present keyword body := by
  rw [clause, if_pos hpresent]
  exact List.mem_append_right _ h

theorem mem_conditions {place : Place} {conditions : List Condition} {c : Condition}
    (hc : c ∈ conditions) (h : segment ∈ predicate s place c.predicate) :
    segment ∈ Layout.conditions s place conditions := by
  cases conditions with
  | nil => cases hc
  | cons first rest =>
      obtain rfl | hrest := List.mem_cons.mp hc
      · exact List.mem_append_left _ h
      · have hlinked : segment ∈ linked s place rest :=
          List.mem_flatMap.mpr ⟨c, hrest, List.mem_append_right _ h⟩
        exact List.mem_append_right _ hlinked

theorem mem_conditionClause {place : Place} {keyword : String} {conditions : List Condition}
    {c : Condition} (hc : c ∈ conditions) (h : segment ∈ predicate s place c.predicate) :
    segment ∈ conditionClause s place keyword conditions := by
  apply mem_clause
  · simpa using List.ne_nil_of_mem hc
  · exact mem_conditions s hc h

end

/-- Whether a column is a segment of its own. -/
def Names (layout : Layout) (place : Place) (path : String) : Prop :=
  ∃ role, Segment.column role place path ∈ layout

section
variable (s : Spelling) (place : Place) {path : String}

theorem names_append {a b : Layout} :
    Names (a ++ b) place path ↔ Names a place path ∨ Names b place path := by
  simp only [Names, List.mem_append, exists_or]

theorem names_column {c : Column} (h : path ∈ c.names) : Names (column s place c) place path := by
  refine ⟨.plain, ?_⟩
  cases c <;> simp_all [Column.names, column, field, text]

theorem names_joinOn (source : Source) (target : JoinTarget) {on : JoinOn} (h : path ∈ on.names) :
    Names (joinOn s place source target on) place path := by
  cases on with
  | key name =>
      obtain rfl := List.mem_singleton.mp h
      exact ⟨_, List.mem_cons_self⟩
  | columns own op joined =>
      obtain rfl | hjoined := List.mem_cons.mp h
      · refine ⟨.joined source, ?_⟩
        simp [joinOn]
      · obtain rfl := List.mem_singleton.mp hjoined
        exact ⟨_, List.mem_cons_self⟩
  | raw f => cases h

theorem names_join (source : Source) {j : Join} (h : path ∈ j.names) :
    Names (join s place source j) place path := by
  obtain ⟨kind, target, on⟩ := j
  cases on with
  | none => cases h
  | some on =>
      obtain ⟨role, hmem⟩ := names_joinOn s place source target h
      exact ⟨role, List.mem_cons_of_mem _ (List.mem_append_right _ hmem)⟩

theorem names_test {t : Test} (h : path ∈ t.fields) : Names (test s place t) place path := by
  cases t with
  | datePart part name op value =>
      obtain rfl := List.mem_singleton.mp h
      exact ⟨_, List.mem_cons_self⟩
  | between name low high inclusive negated =>
      refine ⟨.plain, ?_⟩
      cases negated <;> cases inclusive <;> simp_all [Test.fields, test, field, text]
  | _ =>
      refine ⟨.plain, ?_⟩
      simp_all [Test.fields, test, field, text]

theorem names_condition {c : Condition} (h : path ∈ c.names) :
    Names (predicate s place c.predicate) place path := by
  obtain ⟨joiner, body⟩ := c
  cases body with
  | test t => exact names_test s place h
  | hasRows source negated => cases h

theorem names_group {g : Group} (h : path ∈ g.names) : Names (group place g) place path := by
  refine ⟨.plain, ?_⟩
  cases g <;> simp_all [Group.names, group, field]

theorem names_order {o : Order} (h : path ∈ o.names) : Names (order s place o) place path := by
  refine ⟨.plain, ?_⟩
  cases o <;> simp_all [Order.names, order, field, text]

theorem names_assignment {a : Assignment} (h : path ∈ a.names) :
    Names (assignment place a) place path := by
  refine ⟨.plain, ?_⟩
  cases a <;> simp_all [Assignment.names, assignment, field, text]

theorem names_listed {α : Type} {names : α → List String} {layout : α → Layout}
    (hnames : ∀ a, path ∈ names a → Names (layout a) place path) {items : List α}
    (h : path ∈ items.flatMap names) : Names (listed layout items) place path := by
  obtain ⟨a, ha, hpath⟩ := List.mem_flatMap.mp h
  obtain ⟨role, hmem⟩ := hnames a hpath
  exact ⟨role, mem_listed layout ha hmem⟩

theorem names_columns {columns : List Column} (h : path ∈ columns.flatMap Column.names) :
    Names (Layout.columns s place columns) place path := by
  cases columns with
  | nil => cases h
  | cons c columns => exact names_listed place (fun _ => names_column s place) h

theorem names_joins (source : Source) {joins : List Join} (h : path ∈ joins.flatMap Join.names) :
    Names (Layout.joins s place source joins) place path := by
  obtain ⟨j, hj, hpath⟩ := List.mem_flatMap.mp h
  obtain ⟨role, hmem⟩ := names_join s place source hpath
  exact ⟨role, List.mem_flatMap.mpr ⟨j, hj, List.mem_append_right _ hmem⟩⟩

theorem names_grouping {groups : List Group} (havings : List Condition)
    (h : path ∈ groups.flatMap Group.names) :
    Names (grouping s place groups havings) place path := by
  obtain ⟨role, hmem⟩ := names_listed place (fun _ => names_group place) h
  refine ⟨role, mem_clause ?_ (List.mem_append_left _ hmem)⟩
  cases groups with
  | nil => cases h
  | cons g groups => rfl

theorem names_ordering {orders : List Order} (limit offset : Option Int64)
    (h : path ∈ orders.flatMap Order.names) :
    Names (ordering s place orders limit offset) place path := by
  obtain ⟨role, hmem⟩ := names_listed place (fun _ => names_order s place) h
  refine ⟨role, List.mem_append_left _ (mem_clause ?_ hmem)⟩
  cases orders with
  | nil => cases h
  | cons o orders => rfl

theorem names_assignments {body : UpdateBody} (h : path ∈ (Action.update body).names) :
    Names (assignments place body) place path := by
  cases body with
  | assignments sets => exact names_listed place (fun _ => names_assignment place) h
  | raw f => cases h

end

/-! ## Segments of statements -/

section
variable (s : Spelling) (site : Site) {st : Statement} {segment : Segment}

theorem mem_statement_of_condition {c : Condition} (hc : c ∈ st.writtenConditions)
    (h : segment ∈ predicate s ⟨site, Scope.tablesOf st.source st.joins⟩ c.predicate) :
    segment ∈ statement s site st := by
  have hclause {keyword : String} {conditions : List Condition} (hc : c ∈ conditions) :
      segment ∈ conditionClause s ⟨site, Scope.tablesOf st.source st.joins⟩ keyword conditions :=
    mem_conditionClause s hc h
  rw [Statement.writtenConditions] at hc
  cases haction : st.action with
  | select =>
      simp only [haction, List.mem_append] at hc
      obtain hwheres | hhavings := hc
      · simp only [statement, haction, List.mem_append, hclause hwheres, true_or, or_true]
      · cases hgroups : st.groups.isEmpty with
        | true => simp [hgroups] at hhavings
        | false =>
            rw [hgroups] at hhavings
            have hgrouping : segment ∈ grouping s
                ⟨site, Scope.tablesOf st.source st.joins⟩ st.groups st.havings :=
              mem_clause (by simpa using hgroups) (List.mem_append_right _ (hclause hhavings))
            simp only [statement, haction, List.mem_append, hgrouping, true_or, or_true]
  | update body =>
      rw [haction] at hc
      simp only [statement, haction, List.mem_append, hclause hc, or_true]
  | delete =>
      rw [haction] at hc
      simp only [statement, haction, List.mem_append, hclause hc, or_true]
  | insert body => simp [haction] at hc
  | truncate cascade => simp [haction] at hc

theorem mem_statement_of_member {m : UnionMember} (hm : m ∈ st.writtenMembers)
    (h : segment ∈ member ⟨site, Scope.tablesOf st.source st.joins⟩ m) :
    segment ∈ statement s site st := by
  rw [Statement.writtenMembers] at hm
  cases haction : st.action with
  | select =>
      rw [haction] at hm
      have hmembers : segment ∈ st.unions.flatMap
          (member ⟨site, Scope.tablesOf st.source st.joins⟩) := List.mem_flatMap.mpr ⟨m, hm, h⟩
      simp only [statement, haction, List.mem_append, hmembers, true_or, or_true]
  | _ => simp [haction] at hm

/-- The columns that a statement names are segments at its own place. -/
theorem names_statement {path : String} (h : path ∈ st.writtenNames) :
    Names (statement s site st) ⟨site, Scope.tablesOf st.source st.joins⟩ path := by
  have hconditions (hpath : path ∈ st.writtenConditions.flatMap Condition.names) :
      Names (statement s site st) ⟨site, Scope.tablesOf st.source st.joins⟩ path := by
    obtain ⟨c, hc, hnames⟩ := List.mem_flatMap.mp hpath
    obtain ⟨role, hmem⟩ := names_condition s ⟨site, Scope.tablesOf st.source st.joins⟩ hnames
    exact ⟨role, mem_statement_of_condition s site hc hmem⟩
  rw [Statement.writtenNames] at h
  cases haction : st.action with
  | select =>
      simp only [haction, List.mem_append] at h
      obtain (((hcolumns | hjoins) | hpath) | hgroups) | horders := h
      · simp only [statement, haction, names_append, names_columns s _ hcolumns, true_or, or_true]
      · simp only [statement, haction, names_append, names_joins s _ _ hjoins, true_or, or_true]
      · exact hconditions hpath
      · simp only [statement, haction, names_append, names_grouping s _ _ hgroups, true_or,
          or_true]
      · simp only [statement, haction, names_append, names_ordering s _ _ _ horders, true_or,
          or_true]
  | update body =>
      simp only [haction, List.mem_append] at h
      obtain hsets | hpath := h
      · simp only [statement, haction, names_append, names_assignments _ hsets, true_or, or_true]
      · exact hconditions hpath
  | _ =>
      apply hconditions
      simpa [haction, Action.names] using h

end

end Layout

/-! ## Statements of a tree -/

/-- Whether the statement is the root or one that is nested in it, and where it stands. -/
inductive Occurs (root : Statement) : Site → Statement → Prop
  | top : Occurs root .top root
  | inExists {site : Site} {outer nested : Statement} {joiner : Joiner} {negated : Bool}
      (around : Occurs root site outer)
      (condition : ⟨joiner, .hasRows (.statement nested) negated⟩ ∈ outer.writtenConditions) :
      Occurs root (.inExists site (Scope.tablesOf outer.source outer.joins)) nested
  | appended {site : Site} {outer nested : Statement} {all : Bool}
      (around : Occurs root site outer)
      (member : ⟨all, .statement nested⟩ ∈ outer.writtenMembers) :
      Occurs root (.appended site (Scope.tablesOf outer.source outer.joins)) nested

namespace Occurs
variable {s : Spelling} {root st : Statement} {site : Site}

/-- The segments of a nested statement stand in the text of the root. -/
theorem exists_stands (h : Occurs root site st) {segment : Segment}
    (hmem : segment ∈ Layout.statement s site st) :
    ∃ before after, Stands s root before segment after := by
  induction h generalizing segment with
  | top => exact Sql.exists_stands hmem
  | inExists around condition ih =>
      obtain ⟨before, after, outer⟩ :=
        ih (Layout.mem_statement_of_condition s _ condition (List.mem_singleton_self _))
      exact outer.exists_inExists hmem
  | appended around member ih =>
      obtain ⟨before, after, outer⟩ :=
        ih (Layout.mem_statement_of_member s _ member (List.mem_singleton_self _))
      exact outer.exists_appended hmem

/-- Every statement in a condition of the tree stands in the text of the root as one segment. -/
theorem exists_stands_hasRows (h : Occurs root site st) {joiner : Joiner} {negated : Bool}
    {nested : Statement}
    (hcondition : ⟨joiner, .hasRows (.statement nested) negated⟩ ∈ st.writtenConditions) :
    ∃ before after, Stands s root before
      (.hasRows negated (.inExists site (Scope.tablesOf st.source st.joins)) nested) after :=
  h.exists_stands
    (Layout.mem_statement_of_condition s site hcondition (List.mem_singleton_self _))

/-- Every column that a statement of the tree names stands in the text of the root, at the place of
its statement. -/
theorem exists_stands_column (h : Occurs root site st) {path : String}
    (hpath : path ∈ st.writtenNames) :
    ∃ before role after, Stands s root before
      (.column role ⟨site, Scope.tablesOf st.source st.joins⟩ path) after := by
  obtain ⟨role, hmem⟩ := Layout.names_statement s site hpath
  obtain ⟨before, after, hstands⟩ := h.exists_stands hmem
  exact ⟨before, role, after, hstands⟩

end Occurs

end Sql

end BoundSql
