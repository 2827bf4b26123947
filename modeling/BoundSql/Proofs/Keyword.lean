import BoundSql.Builder.Basic
import BoundSql.Monitor.Context
import BoundSql.Proofs.Template.Statement

/-!
# First words

Observers tell the kind of a statement by its first word. `ofSql_compileAfter` says that they tell
it rightly: whatever the clauses of a statement hold, its text opens with the word of its action,
because every action writes its word before anything that a caller can choose.
-/

namespace BoundSql

/-- The kind of the statements with an action. -/
def StatementKind.ofAction : Action → StatementKind
  | .select => select
  | .insert _ => insert
  | .update _ => update
  | .delete => delete
  | .truncate _ => truncate

/-- The word that statements with an action open with, and the blank behind it. -/
def Action.opening : Action → String
  | .select => "SELECT "
  | .insert _ => "INSERT "
  | .update _ => "UPDATE "
  | .delete => "DELETE "
  | .truncate _ => "TRUNCATE "

/-- A text that opens with a word. -/
def OpensWith (word text : String) : Prop :=
  word.toList <+: text.toList

theorem opensWith_append (word rest : String) : OpensWith word (word ++ rest) :=
  ⟨rest.toList, String.toList_append.symm⟩

/-- A longer text opens with the same word. -/
theorem OpensWith.append {word text : String} (h : OpensWith word text) (rest : String) :
    OpensWith word (text ++ rest) :=
  List.IsPrefix.trans h (opensWith_append text rest)

/-- A text that opens with the word of an action is of its kind. -/
theorem OpensWith.ofSql_eq {action : Action} {sql : String} (h : OpensWith action.opening sql) :
    StatementKind.ofSql sql = .ofAction action := by
  obtain ⟨rest, hrest⟩ := h
  unfold StatementKind.ofSql
  rw [← hrest]
  cases action with
  | insert body => simp only [Action.opening]; rfl
  | update body => simp only [Action.opening]; rfl
  | truncate cascade => simp only [Action.opening]; rfl
  | _ => rfl

namespace Sql

open Template

/-- Other names for columns leave the word of an action as it is. -/
theorem opening_renameAction (rename : String → String) (action : Action) :
    (renameAction rename action).opening = action.opening := by
  cases action with
  | update body => cases body <;> rfl
  | _ => rfl

theorem opening_withPrefixes (tablePrefix : String) (statement : Statement) :
    (withPrefixes tablePrefix statement).action.opening = statement.action.opening := by
  cases statement
  exact opening_renameAction _ _

/-! ## Templates -/

/-- A text that opens with a word is a template that begins with it. -/
theorem Template.prefix_text {word s : String} (h : OpensWith word s) : text word <+: text s :=
  List.IsPrefix.map Piece.char h

theorem Template.prefix_text_append {word s : String} (h : OpensWith word s) (rest : Template) :
    text word <+: text s ++ rest :=
  (prefix_text h).trans (List.prefix_append _ _)

namespace Spelling
variable (s : Spelling)

/-- An insertion opens with its word. -/
theorem opening_insertion (source : Source) (body : InsertBody) :
    text "INSERT " <+: s.insertion source body := by
  have hword : OpensWith "INSERT " "INSERT INTO " := opensWith_append "INSERT " "INTO "
  cases body with
  | rows fields rows =>
    exact prefix_text_append ((((hword.append _).append _).append _).append _) _
  | raw f => exact prefix_text_append ((hword.append _).append _) _

/-- What is assembled opens with the word of its action. -/
theorem opening_assemble (statement : Statement) :
    text statement.action.opening <+: s.assemble statement := by
  obtain ⟨source, action, columns, distinct, joins, wheres, groups, havings, orders, unions,
    limit, offset, lock⟩ := statement
  cases action with
  | select =>
    have hword : OpensWith "SELECT " (s.selection columns distinct source) := by
      unfold selection
      iterate 3 apply OpensWith.append
      exact opensWith_append _ _
    simp only [assemble, List.append_assoc]
    exact prefix_text_append hword _
  | insert body => exact s.opening_insertion source body
  | update body =>
    simp only [assemble, List.append_assoc]
    exact prefix_text_append ((opensWith_append _ _).append _) _
  | delete =>
    have hword : OpensWith "DELETE " "DELETE FROM " := opensWith_append "DELETE " "FROM "
    exact prefix_text_append (hword.append _) _
  | truncate cascade =>
    have hword : OpensWith "TRUNCATE " "TRUNCATE TABLE " := opensWith_append "TRUNCATE " "TABLE "
    exact prefix_text ((hword.append _).append _)

theorem opening_template (statement : Statement) :
    text statement.action.opening <+: s.template statement := by
  unfold template
  split
  · exact s.opening_assemble statement
  · rw [← opening_withPrefixes s.tablePrefix statement]
    exact s.opening_assemble _

end Spelling

/-- What is compiled is of the kind of its action, whatever the statement holds. -/
theorem ofSql_compileAfter (d : Dialect) (bound : List Value) (statement : Statement) :
    StatementKind.ofSql (d.compileAfter bound statement).sql = .ofAction statement.action := by
  apply OpensWith.ofSql_eq
  obtain ⟨rest, hrest⟩ := d.toSpelling.opening_template statement
  rw [compileAfter_eq, ← hrest, write_append, write_text, String.ofList_append,
    String.ofList_toList]
  exact opensWith_append _ _

end Sql

/-- What a builder compiles is of the kind of what it does. -/
theorem Builder.ofSql_compile (b : Builder) :
    StatementKind.ofSql b.compile.sql = .ofAction b.statement.action :=
  Sql.ofSql_compileAfter b.dialect [] b.statement

end BoundSql
