import BoundSql.Proofs.Edit.WellFormed
import BoundSql.Proofs.EmptyPrefix
import BoundSql.Proofs.Quotation
import Mathlib.Data.List.Forall2

/-!
# Columns of writes

The columns that are named in the text of an insertion or of an update are those of its fields, in
their order. The fields are distinct as they are given, but the text shows what the dialect writes
for them: without the blanks around them, and with an expression that is quoted already as it is.
Two fields are written alike just if one is the other up to these blanks, or is what is written of
the other (`identifier_eq_iff`). `written_columns_nodup_iff` puts this together for builders that
are reached, and `blankRepeated_sql` shows a column that is written twice.
-/

namespace BoundSql

namespace Sql

/-! ## Texts of writes -/

namespace Dialect
variable {d : Dialect} {s : Statement}

theorem compile_insert (hempty : d.tablePrefix = "") {fields : List String}
    {rows : List (List Value)} (hs : s.action = .insert (.rows fields rows)) :
    ∃ tuples, (d.compile s).sql = "INSERT INTO " ++ d.target s.source ++ " (" ++
      String.intercalate ", " (fields.map d.identifier) ++ ") VALUES " ++ tuples := by
  obtain ⟨source, action⟩ := s
  subst hs
  rw [compile, compileAfter_of_tablePrefix_empty hempty]
  exact ⟨_, rfl⟩

/-- What is set begins with its column. -/
def Assigns (d : Dialect) (a : Assignment) (text : String) : Prop :=
  ∃ value, text = d.identifier a.field ++ " = " ++ value

theorem assigns_assignment (a : Assignment) (bound : List Value) :
    d.Assigns a ((d.assignment a).run bound).1 := by
  cases a with
  | set field value => exact ⟨_, rfl⟩
  | step field negative amount =>
      refine ⟨d.identifier field ++ (if negative then " - " else " + ") ++
        ((d.bindValue amount).run bound).1, ?_⟩
      simp only [assignment, Assignment.field, String.append_assoc]
      rfl

theorem assigns_mapM_assignment (assignments : List Assignment) (bound : List Value) :
    List.Forall₂ d.Assigns assignments ((assignments.mapM d.assignment).run bound).1 := by
  induction assignments generalizing bound with
  | nil => exact .nil
  | cons a assignments ih =>
      rw [List.mapM_cons]
      exact .cons (assigns_assignment a bound) (ih _)

theorem compile_update (hempty : d.tablePrefix = "") {assignments : List Assignment}
    (hs : s.action = .update (.assignments assignments)) :
    ∃ texts rest, List.Forall₂ d.Assigns assignments texts ∧
      (d.compile s).sql =
        "UPDATE " ++ d.source s.source ++ " SET " ++ String.intercalate ", " texts ++ rest := by
  obtain ⟨source, action⟩ := s
  subst hs
  rw [compile, compileAfter_of_tablePrefix_empty hempty]
  exact ⟨_, _, assigns_mapM_assignment assignments [], rfl⟩

end Dialect

end Sql

open Builder (Fields)

/-! ## Columns -/

/-- The columns that a write names, in its order. -/
def Action.columns : Action → List String
  | .insert (.rows fields _) => fields
  | .update (.assignments assignments) => assignments.map Assignment.field
  | _ => []

theorem Action.WellFormed.nodup_columns {action : Action} (h : action.WellFormed) :
    action.columns.Nodup := by
  match action, h with
  | .insert (.rows _ _), h => exact h.2.1
  | .update (.assignments _), h => exact h.2
  | .insert (.raw _), _ => exact List.nodup_nil
  | .update (.raw _), _ => exact List.nodup_nil
  | .select, _ => exact List.nodup_nil
  | .delete, _ => exact List.nodup_nil
  | .truncate _, _ => exact List.nodup_nil

/-- An update that sets a field does not step it as well. -/
theorem Action.WellFormed.not_stepped {assignments : List Assignment}
    (h : (Action.update (.assignments assignments)).WellFormed) {field : String} {value : Value}
    (hset : .set field value ∈ assignments) (down : Bool) (amount : Value) :
    .step field down amount ∉ assignments := by
  intro hstep
  have hsame := List.inj_on_of_nodup_map h.2 hset hstep rfl
  cases hsame

/-- Fields that are overwritten are set. -/
theorem action_of_apply_steps {b b' : Builder} {negative : Bool} {steps overwrites : Fields}
    (h : (Edit.steps negative steps overwrites).apply b = .ok b') :
    ∃ assignments, b'.statement.action = .update (.assignments assignments) ∧
      (Action.update (.assignments assignments)).WellFormed ∧
        ∀ field ∈ overwrites, .set field.1 field.2 ∈ assignments := by
  obtain ⟨action, haction, hb'⟩ := map_eq_ok_iff.mp (Edit.onStatement_of_apply h)
  have hwellFormed := Builder.stepFields_wellFormed haction
  obtain ⟨-, -, -, rfl⟩ := Builder.stepFields_eq_ok_iff.mp haction
  refine ⟨_, by rw [← hb'], hwellFormed, fun field hfield => ?_⟩
  exact List.mem_append_right _ (List.mem_map.mpr ⟨field, hfield, rfl⟩)

/-- The columns in the text of a write are those of its fields, in their order. No field is given
twice, and no column is written twice just if none of the fields is another one but for the blanks
around it, or is what is written of another. What a call overwrites is not stepped by it. -/
theorem written_columns_nodup_iff {b : Builder} (hb : b.Reachable)
    (hempty : b.dialect.tablePrefix = "") :
    let s := b.statement
    let d := b.dialect
    (∀ fields rows, s.action = .insert (.rows fields rows) →
      ∃ tuples, b.compile.sql = "INSERT INTO " ++ d.target s.source ++ " (" ++
        String.intercalate ", " (s.action.columns.map d.identifier) ++ ") VALUES " ++ tuples) ∧
    (∀ assignments, s.action = .update (.assignments assignments) →
      ∃ texts rest, List.Forall₂ (fun column text => ∃ value, text = column ++ " = " ++ value)
          (s.action.columns.map d.identifier) texts ∧
        b.compile.sql =
          "UPDATE " ++ d.source s.source ++ " SET " ++ String.intercalate ", " texts ++ rest) ∧
    s.action.columns.Nodup ∧
    (Sql.IsApart d.quote → ((s.action.columns.map d.identifier).Nodup ↔
      ∀ f ∈ s.action.columns, ∀ g ∈ s.action.columns, d.Alike f g → f = g)) ∧
    ∀ negative steps overwrites b', (Edit.steps negative steps overwrites).apply b = .ok b' →
      ∃ assignments, b'.statement.action = .update (.assignments assignments) ∧
        ∀ field ∈ overwrites, .set field.1 field.2 ∈ assignments ∧
          ∀ down amount, .step field.1 down amount ∉ assignments := by
  intro s d
  have hwellFormed : s.action.WellFormed := (hb.wellFormed _ (.self _)).action
  refine ⟨?insert, ?update, hwellFormed.nodup_columns, ?alike, ?steps⟩
  case insert =>
    intro fields rows haction
    obtain ⟨tuples, hsql⟩ := Sql.Dialect.compile_insert hempty haction
    have hcolumns : s.action.columns = fields := by rw [haction, Action.columns]
    exact ⟨tuples, hcolumns.symm ▸ hsql⟩
  case update =>
    intro assignments haction
    obtain ⟨texts, rest, htexts, hsql⟩ := Sql.Dialect.compile_update hempty haction
    refine ⟨texts, rest, ?_, hsql⟩
    rw [haction, Action.columns, List.map_map, List.forall₂_map_left_iff]
    exact htexts
  case alike =>
    intro hquote
    have halike : ∀ f g, d.identifier f = d.identifier g ↔ d.Alike f g :=
      fun _ _ => Sql.Spelling.identifier_eq_iff hquote
    simp only [List.nodup_map_iff_inj_on hwellFormed.nodup_columns, halike]
  case steps =>
    intro negative steps overwrites b' happly
    obtain ⟨assignments, haction, hafter, hset⟩ := action_of_apply_steps happly
    refine ⟨assignments, haction, fun field hfield => ⟨hset field hfield, ?_⟩⟩
    exact hafter.not_stepped (hset field hfield)

/-- A builder that counts a visit, and that notes it in a field that was to be counted as well. -/
def visitCounted : Builder :=
  ((Step.edit (.steps false [("visits", .int 1), ("Note", .int 1)] [("Note", .text "again")])).run
    (.new .postgres ⟨"users", none⟩)).1

theorem written_columns_nodup_iff_visitCounted :
    visitCounted.Reachable ∧ visitCounted.dialect.tablePrefix = "" ∧
      Sql.IsApart visitCounted.dialect.quote ∧
      visitCounted.compile.sql = "UPDATE users SET visits = visits + $1, \"Note\" = $2" ∧
      visitCounted.statement.action.columns.map visitCounted.dialect.identifier =
        ["visits", "\"Note\""] ∧
      (visitCounted.statement.action.columns.map visitCounted.dialect.identifier).Nodup := by
  have hreachable : visitCounted.Reachable :=
    .run _ (fun _ => visitCounted) (.new _ _) (by rintro s ⟨⟩) (by rintro s ⟨⟩)
  have hquote : Sql.IsApart visitCounted.dialect.quote := Sql.Dialect.isApart_quote.1
  obtain ⟨-, -, -, halike, -⟩ := written_columns_nodup_iff hreachable rfl
  refine ⟨hreachable, rfl, hquote, by decide +kernel, by decide +kernel, (halike hquote).mpr ?_⟩
  unfold Sql.Spelling.Alike
  decide +kernel

/-- A builder that inserts a field twice, the second time with a blank in front of it. -/
def blankRepeated : Builder :=
  ((Step.edit (.insert [[("id", .int 1), (" id", .int 2)]])).run
    (.new .postgres ⟨"users", none⟩)).1

/-- The column of a field that is given twice with other blanks is written twice. -/
theorem blankRepeated_sql :
    blankRepeated.Reachable ∧ blankRepeated.dialect.tablePrefix = "" ∧
      blankRepeated.statement.action = .insert (.rows ["id", " id"] [[.int 1, .int 2]]) ∧
      blankRepeated.compile.sql = "INSERT INTO users (id, id) VALUES ($1, $2)" ∧
      ¬(blankRepeated.statement.action.columns.map blankRepeated.dialect.identifier).Nodup := by
  refine ⟨?reachable, rfl, rfl, ?sql, ?columns⟩
  case reachable =>
    exact .run _ (fun _ => blankRepeated) (.new _ _) (by rintro s ⟨⟩) (by rintro s ⟨⟩)
  case sql => decide +kernel
  case columns => decide +kernel

end BoundSql
