import BoundSql.Proofs.Layout.Coverage

/-!
# Nested statements

A nested statement is compiled like a statement by itself. What is appended by `UNION` always is.
Inside `EXISTS` a statement sees the tables around it, so there it is only if no column of it,
however deep, has a qualifier that could stand for one of these.
-/

namespace BoundSql

open Sql

/-! ## The columns of statements -/

mutual

/-- The columns that a statement and the statements in its conditions name outside of fragments.
What is appended sees no table around it, and is left out. -/
def Statement.columnNames : Statement → List String
  | ⟨_, action, columns, _, joins, wheres, groups, havings, orders, _, _, _, _⟩ =>
    action.names ++ columns.flatMap Column.names ++ joins.flatMap Join.names ++
      conditionNames wheres ++ groups.flatMap Group.names ++ conditionNames havings ++
      orders.flatMap Order.names
termination_by structural statement => statement

def conditionNames : List Condition → List String
  | [] => []
  | condition :: rest => condition.columnNames ++ conditionNames rest
termination_by structural conditions => conditions

def Condition.columnNames : Condition → List String
  | ⟨_, body⟩ => body.columnNames
termination_by structural condition => condition

def Predicate.columnNames : Predicate → List String
  | .test t => t.fields
  | .hasRows source _ => source.columnNames
termination_by structural predicate => predicate

def Subquery.columnNames : Subquery → List String
  | .statement statement => statement.columnNames
  | .raw _ => []
termination_by structural subquery => subquery

end

namespace Sql

open Template

/-! ## Columns that do not see the tables around -/

section
variable {f g : String → String}

theorem renameColumn_congr {c : Column} (h : ∀ path ∈ c.names, f path = g path) :
    renameColumn f c = renameColumn g c := by
  cases c with
  | raw t => rfl
  | field name asName => simp only [renameColumn, h name (by simp [Column.names])]
  | aggregate function name asName => simp only [renameColumn, h name (by simp [Column.names])]

theorem renameJoin_congr {j : Join} (h : ∀ path ∈ j.names, f path = g path) :
    renameJoin f j = renameJoin g j := by
  obtain ⟨kind, target, on⟩ := j
  cases on with
  | none => rfl
  | some on =>
      cases on with
      | key name => simp [renameJoin, h name (by simp [Join.names, JoinOn.names])]
      | columns own op joined =>
          simp [renameJoin, h own (by simp [Join.names, JoinOn.names]),
            h joined (by simp [Join.names, JoinOn.names])]
      | raw fragment => rfl

theorem mapFields_congr {t : Test} (h : ∀ path ∈ t.fields, f path = g path) :
    t.mapFields f = t.mapFields g := by
  cases t <;> simp_all [Test.fields, Test.mapFields]

theorem renameGroup_congr {e : Group} (h : ∀ path ∈ e.names, f path = g path) :
    renameGroup f e = renameGroup g e := by
  cases e with
  | field name => simp only [renameGroup, h name (by simp [Group.names])]
  | raw fragment => rfl

theorem renameOrder_congr {o : Order} (h : ∀ path ∈ o.names, f path = g path) :
    renameOrder f o = renameOrder g o := by
  cases o with
  | field name ascending => simp only [renameOrder, h name (by simp [Order.names])]
  | raw fragment => rfl
  | random => rfl

theorem renameAssignment_congr {a : Assignment} (h : ∀ path ∈ a.names, f path = g path) :
    renameAssignment f a = renameAssignment g a := by
  cases a with
  | set name value => simp only [renameAssignment, h name (by simp [Assignment.names])]
  | step name negative amount =>
      simp only [renameAssignment, h name (by simp [Assignment.names])]

/-- What holds item by item of names holds of all items. -/
theorem map_congr_of_names {α : Type} {rename : (String → String) → α → α} {names : α → List String}
    (hrename : ∀ a, (∀ path ∈ names a, f path = g path) → rename f a = rename g a) {items : List α}
    (h : ∀ path ∈ items.flatMap names, f path = g path) :
    items.map (rename f) = items.map (rename g) := by
  apply List.map_congr_left
  intro a ha
  apply hrename a
  intro path hpath
  exact h path (List.mem_flatMap_of_mem ha hpath)

theorem renameAction_congr {action : Action} (h : ∀ path ∈ action.names, f path = g path) :
    renameAction f action = renameAction g action := by
  cases action with
  | update body =>
      cases body with
      | assignments sets =>
          simp only [renameAction, map_congr_of_names (fun _ => renameAssignment_congr) h]
      | raw fragment => rfl
  | _ => rfl

end

/-- Whether a column has one name with the outer tables in view and without them, whatever tables
stand between. -/
def Unseen (rename : Scope → String → String) (outer : List TableRef) (path : String) : Prop :=
  ∀ inner, rename (scopeOf (outer ++ inner)) path = rename (scopeOf inner) path

section
variable {rename : Scope → String → String} {outer : List TableRef}

mutual

/-- A statement whose columns do not see the outer tables is the same with and without them. -/
theorem renameStatement_unseen : ∀ (inner : List TableRef) (statement : Statement),
    (∀ path ∈ statement.columnNames, Unseen rename outer path) →
      renameStatement rename (scopeOf (outer ++ inner)) statement =
        renameStatement rename (scopeOf inner) statement
  | inner, ⟨source, action, columns, distinct, joins, wheres, groups, havings, orders, unions,
      limit, offset, lock⟩ => by
    intro h
    simp only [Statement.columnNames, List.mem_append, or_imp, forall_and] at h
    obtain ⟨⟨⟨⟨⟨⟨haction, hcolumns⟩, hjoins⟩, hwheres⟩, hgroups⟩, hhavings⟩, horders⟩ := h
    have hown {names : List String} (hnames : ∀ path ∈ names, Unseen rename outer path) :
        ∀ path ∈ names,
          rename (scopeOf (outer ++ (inner ++ Scope.tablesOf source joins))) path =
            rename (scopeOf (inner ++ Scope.tablesOf source joins)) path :=
      fun path hpath => hnames path hpath _
    simp only [renameStatement, enter_scopeOf, List.append_assoc,
      renameAction_congr (hown haction),
      map_congr_of_names (fun _ => renameColumn_congr) (hown hcolumns),
      map_congr_of_names (fun _ => renameJoin_congr) (hown hjoins),
      map_congr_of_names (fun _ => renameGroup_congr) (hown hgroups),
      map_congr_of_names (fun _ => renameOrder_congr) (hown horders),
      renameConditions_unseen (inner ++ Scope.tablesOf source joins) wheres hwheres,
      renameConditions_unseen (inner ++ Scope.tablesOf source joins) havings hhavings]
termination_by structural _ statement => statement

theorem renameConditions_unseen : ∀ (inner : List TableRef) (conditions : List Condition),
    (∀ path ∈ conditionNames conditions, Unseen rename outer path) →
      renameConditions rename (scopeOf (outer ++ inner)) conditions =
        renameConditions rename (scopeOf inner) conditions
  | _, [] => fun _ => rfl
  | inner, condition :: rest => by
    intro h
    simp only [conditionNames, List.mem_append, or_imp, forall_and] at h
    simp only [renameConditions, renameCondition_unseen inner condition h.1,
      renameConditions_unseen inner rest h.2]
termination_by structural _ conditions => conditions

theorem renameCondition_unseen : ∀ (inner : List TableRef) (condition : Condition),
    (∀ path ∈ condition.columnNames, Unseen rename outer path) →
      renameCondition rename (scopeOf (outer ++ inner)) condition =
        renameCondition rename (scopeOf inner) condition
  | inner, ⟨joiner, body⟩ => fun h =>
    congrArg (Condition.mk joiner) (renamePredicate_unseen inner body h)
termination_by structural _ condition => condition

theorem renamePredicate_unseen : ∀ (inner : List TableRef) (predicate : Predicate),
    (∀ path ∈ predicate.columnNames, Unseen rename outer path) →
      renamePredicate rename (scopeOf (outer ++ inner)) predicate =
        renamePredicate rename (scopeOf inner) predicate
  | inner, .test _ => fun h =>
    congrArg Predicate.test (mapFields_congr fun path hpath => h path hpath inner)
  | inner, .hasRows source negated => fun h =>
    congrArg (Predicate.hasRows · negated) (renameSubquery_unseen inner source h)
termination_by structural _ predicate => predicate

theorem renameSubquery_unseen : ∀ (inner : List TableRef) (subquery : Subquery),
    (∀ path ∈ subquery.columnNames, Unseen rename outer path) →
      renameSubquery rename (scopeOf (outer ++ inner)) subquery =
        renameSubquery rename (scopeOf inner) subquery
  | inner, .statement statement => fun h =>
    congrArg Subquery.statement (renameStatement_unseen inner statement h)
  | _, .raw _ => fun _ => rfl
termination_by structural _ subquery => subquery

end

end

/-- A column does not see tables that its qualifier cannot stand for. -/
theorem unseen_renamed (s : Spelling) {outer : List TableRef} {path : String}
    (h : ∀ table column, Qualifies table column path → ¬Declares outer table) :
    Unseen s.renamed outer path := by
  intro inner
  unfold Spelling.renamed
  split
  · rfl
  · apply column_congr
    intro table column hpath
    have hfree := h table column hpath
    simp only [Declares, not_or] at hfree
    apply Bool.eq_iff_iff.mpr
    simp only [namesTable_scopeOf, hasAlias_append, hasTable_append, hasLastPart_append, hfree,
      false_or]

/-! ## Templates of nested statements -/

variable (d : Dialect)

/-- Templates one after the other are compiled one after the other. -/
theorem after_print_append (a b : Template) (bound : List Value) :
    let first := (a.print d.placeholder).after bound
    let second := (b.print d.placeholder).after first.values
    ((a ++ b).print d.placeholder).after bound = ⟨first.sql ++ second.sql, second.values⟩ := by
  simp only [Printer.after, run_print, write_append, values_append, String.ofList_append,
    List.length_append, List.append_assoc]

theorem after_print_text (t : String) (bound : List Value) :
    ((text t).print d.placeholder).after bound = ⟨t, bound⟩ := by
  simp only [Printer.after, run_print, write_text, values_text, String.ofList_toList,
    List.append_nil]

theorem after_print_template (statement : Statement) (bound : List Value) :
    ((d.toSpelling.template statement).print d.placeholder).after bound =
      d.compileAfter bound statement := by
  rw [print_template, Dialect.compileAfter]

/-- A statement that sees no tables around it has the template that it has by itself. -/
theorem templateAt_of_visible_eq_nil (s : Spelling) {site : Site} (hsite : site.visible = [])
    (statement : Statement) : s.templateAt site statement = s.template statement := by
  have hscope : site.scope = Site.top.scope := congrArg scopeOf hsite
  rw [template_eq_templateAt, Spelling.templateAt, Spelling.templateAt, hscope]

/-- A statement whose columns see none of the tables around it has the template that it has by
itself. -/
theorem templateAt_of_not_declares (s : Spelling) {site : Site} {statement : Statement}
    (h : ∀ path ∈ statement.columnNames, ∀ table column, Qualifies table column path →
      ¬Declares site.visible table) :
    s.templateAt site statement = s.template statement := by
  have hrename := renameStatement_unseen [] statement fun path hpath =>
    unseen_renamed s (h path hpath)
  rw [List.append_nil] at hrename
  rw [template_eq_templateAt, Spelling.templateAt, Spelling.templateAt, Site.scope, hrename]
  rfl

/-- An appended statement or fragment behind what is compiled before it. -/
def Dialect.appendMember (c : Compiled) (m : UnionMember) : Compiled :=
  let nested :=
    match m.source with
    | .statement statement => d.compileAfter c.values statement
    | .raw f => d.fillAfter c.values f
  { sql := c.sql ++ unionKeyword m.all ++ nested.sql, values := nested.values }

/-- What is appended is compiled behind what comes before it. -/
theorem after_print_member (place : Place) (a : Template) (m : UnionMember) (bound : List Value) :
    ((a ++ d.toSpelling.written (Layout.member place m)).print d.placeholder).after bound =
      d.appendMember ((a.print d.placeholder).after bound) m := by
  obtain ⟨all, source⟩ := m
  cases source with
  | statement statement =>
      have hsite : (Site.appended place.site place.tables).visible = [] := rfl
      simp only [Layout.member, Spelling.written_cons, Spelling.written_nil, List.append_nil,
        Spelling.segment, templateAt_of_visible_eq_nil _ hsite, after_print_append,
        after_print_text, after_print_template, Dialect.appendMember, String.append_assoc]
  | raw f =>
      simp only [Layout.member, Spelling.written_cons, Spelling.written_nil, List.append_nil,
        Spelling.segment, after_print_append, after_print_text, print_fragment,
        Dialect.appendMember, Dialect.fillAfter, String.append_assoc]

/-- All that is appended is compiled one after the other. -/
theorem after_print_members (place : Place) (a : Template) (unions : List UnionMember)
    (bound : List Value) :
    ((a ++ d.toSpelling.written (unions.flatMap (Layout.member place))).print
        d.placeholder).after bound =
      unions.foldl d.appendMember ((a.print d.placeholder).after bound) := by
  induction unions generalizing a with
  | nil => simp
  | cons m unions ih =>
      rw [List.flatMap_cons, Spelling.written_append, ← List.append_assoc, ih,
        after_print_member, List.foldl_cons]

/-- A selection is what it is without all that is appended and its lock, with these behind it. -/
theorem templateAt_select (s : Spelling) (site : Site) {statement : Statement}
    (hselect : statement.action = .select) :
    s.templateAt site statement =
      s.templateAt site { statement with unions := [], lock := none } ++
        s.written (statement.unions.flatMap
          (Layout.member ⟨site, Scope.tablesOf statement.source statement.joins⟩)) ++
        text (s.locking statement.lock) := by
  have hlock : text (s.locking none) = [] := rfl
  simp only [Spelling.templateAt_eq_written, Layout.statement, hselect, Spelling.written_append,
    Spelling.written_text, hlock, List.flatMap_nil, List.append_nil]

/-- What is appended to a selection, and its lock, is compiled behind the rest of it. -/
theorem compileAfter_select (bound : List Value) {statement : Statement}
    (hselect : statement.action = .select) :
    let whole := statement.unions.foldl d.appendMember
      (d.compileAfter bound { statement with unions := [], lock := none })
    d.compileAfter bound statement = ⟨whole.sql ++ d.locking statement.lock, whole.values⟩ := by
  have htemplate := templateAt_select d.toSpelling .top hselect
  rw [← template_eq_templateAt, ← template_eq_templateAt] at htemplate
  rw [← after_print_template d statement, htemplate, after_print_append, after_print_members,
    after_print_text, after_print_template]

/-- A statement inside `EXISTS` whose columns see none of the tables around it is compiled behind
what comes before it. -/
theorem compileAfter_hasRows {root nested : Statement} {before after : Template} {negated : Bool}
    {site : Site} (hstands : Stands d.toSpelling root before (.hasRows negated site nested) after)
    (hunseen : ∀ path ∈ nested.columnNames, ∀ table column, Qualifies table column path →
      ¬Declares site.visible table) (bound : List Value) :
    let front := (before.print d.placeholder).after bound
    let alone := d.compileAfter front.values nested
    let back := (after.print d.placeholder).after alone.values
    d.compileAfter bound root =
      ⟨front.sql ++ existsOpening negated ++ alone.sql ++ ")" ++ back.sql, back.values⟩ := by
  have htemplate := hstands.template_eq
  rw [Spelling.segment, templateAt_of_not_declares _ hunseen] at htemplate
  rw [← after_print_template d root, htemplate]
  simp only [after_print_append, after_print_text, after_print_template, String.append_assoc]

/-- A nested statement is compiled as it is by itself, behind what comes before it. What is appended
to a selection always is, and so is what stands inside `EXISTS`, anywhere in the tree, if no
qualifier in it could stand for a table around it. -/
theorem nested_compiled_alone (root : Statement) (bound : List Value) :
    (root.action = .select →
      let whole := root.unions.foldl d.appendMember
        (d.compileAfter bound { root with unions := [], lock := none })
      d.compileAfter bound root = ⟨whole.sql ++ d.locking root.lock, whole.values⟩) ∧
    (∀ site st, Occurs root site st → ∀ joiner negated nested,
      ⟨joiner, .hasRows (.statement nested) negated⟩ ∈ st.writtenConditions →
        ∃ before after, Stands d.toSpelling root before
          (.hasRows negated (.inExists site (Scope.tablesOf st.source st.joins)) nested) after) ∧
    ∀ before negated site nested after,
      Stands d.toSpelling root before (.hasRows negated site nested) after →
      (∀ path ∈ nested.columnNames, ∀ table column, Qualifies table column path →
        ¬Declares site.visible table) →
      let front := (before.print d.placeholder).after bound
      let alone := d.compileAfter front.values nested
      let back := (after.print d.placeholder).after alone.values
      d.compileAfter bound root =
        ⟨front.sql ++ existsOpening negated ++ alone.sql ++ ")" ++ back.sql, back.values⟩ := by
  refine ⟨?appended, ?conditions, ?inExists⟩
  case appended =>
    intro hselect
    exact compileAfter_select d bound hselect
  case conditions =>
    intro site st hoccurs joiner negated nested hcondition
    exact hoccurs.exists_stands_hasRows hcondition
  case inExists =>
    intro before negated site nested after hstands hunseen
    exact compileAfter_hasRows d hstands hunseen bound

/-- Comments that wait for a decision. -/
def openComments : Statement :=
  { source := .table ⟨"comments", none⟩
    wheres := [.ofTest .and (.compare "comments.approved" "=" (.bool false))] }

/-- Posts without open comments, and some of the drafts. -/
def settledPosts : Statement :=
  { source := .table ⟨"posts", none⟩
    wheres := [.ofTest .and (.compare "posts.id" ">" (.int 1)),
      ⟨.and, .hasRows (.statement openComments) true⟩]
    unions := [⟨true, .statement
      { source := .table ⟨"drafts", none⟩
        wheres := [.ofTest .and (.compare "drafts.id" "<" (.int 9))] }⟩]
    lock := some .forUpdate }

theorem nested_compiled_alone_settledPosts :
    settledPosts.action = .select ∧
      (∀ path ∈ openComments.columnNames, ∀ table column, Qualifies table column path →
        ¬Declares [⟨"posts", none⟩] table) ∧
      let d := Dialect.postgres.withPrefix "wp_"
      let whole := settledPosts.unions.foldl d.appendMember
        (d.compileAfter [.null] { settledPosts with unions := [], lock := none })
      d.compileAfter [.null] settledPosts = ⟨whole.sql ++ " FOR UPDATE", whole.values⟩ ∧
      ∃ before after,
        Stands d.toSpelling settledPosts before
          (.hasRows true (.inExists .top [⟨"posts", none⟩]) openComments) after ∧
        let front := (before.print d.placeholder).after [.null]
        let alone := d.compileAfter front.values openComments
        let back := (after.print d.placeholder).after alone.values
        d.compileAfter [.null] settledPosts =
          ⟨front.sql ++ "NOT EXISTS (" ++ alone.sql ++ ")" ++ back.sql, back.values⟩ := by
  have hunseen : ∀ path ∈ openComments.columnNames, ∀ table column,
      Qualifies table column path → ¬Declares [⟨"posts", none⟩] table := by
    intro path hpath table column hqualifies
    have hcomments : Qualifies "comments" "approved" "comments.approved" :=
      ⟨by decide, by decide, by decide⟩
    obtain rfl : path = "comments.approved" := List.mem_singleton.mp hpath
    rw [hqualifies.table_eq hcomments]
    decide
  have hmem : Segment.hasRows true (.inExists .top [⟨"posts", none⟩]) openComments ∈
      Layout.statement (Dialect.postgres.withPrefix "wp_").toSpelling .top settledPosts :=
    List.mem_of_getElem? (i := 7) rfl
  obtain ⟨before, after, hstands⟩ := exists_stands hmem
  obtain ⟨hselect, -, hinExists⟩ :=
    nested_compiled_alone (Dialect.postgres.withPrefix "wp_") settledPosts [.null]
  refine ⟨rfl, hunseen, hselect rfl, before, after, hstands, ?_⟩
  exact hinExists before true _ openComments after hstands hunseen

end Sql

end BoundSql
