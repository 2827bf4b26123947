import BoundSql.Connection.Basic
import BoundSql.Text.Utf8

/-!
# What observers see

Of a request observers see the text, the number of parameters, the tag and the kind of the
statement, which its first word tells. Of an answer they see the `Outcome`. The text of a failure
is kept to 512 bytes.
-/

namespace BoundSql

open BoundSql.Calendar (Duration)

/-- What a statement does, as far as its first word tells. -/
inductive StatementKind where
  | select
  | insert
  | update
  | delete
  | truncate
  | other
deriving DecidableEq, Repr, Inhabited

namespace StatementKind

/-- The word for a kind. -/
def name : StatementKind → String
  | select => "Select"
  | insert => "Insert"
  | update => "Update"
  | delete => "Delete"
  | truncate => "Truncate"
  | other => "Other"

/-- The kind of statements that begin with a word in lower case. A common table expression is
counted as a selection. -/
def ofWord : String → StatementKind
  | "select" => select
  | "with" => select
  | "insert" => insert
  | "update" => update
  | "delete" => delete
  | "truncate" => truncate
  | _ => other

/-- The first word behind blanks and opening parentheses, in lower case. It ends before the first
character that is no letter of ASCII. -/
def firstWord (sql : List Char) : List Char :=
  ((sql.dropWhile fun c => Text.isBlank c || c = '(').takeWhile Char.isAlpha).map Char.toLower

/-- The kind of a statement. -/
def ofSql (sql : String) : StatementKind :=
  ofWord (.ofList (firstWord sql.toList))

end StatementKind

/-- What is known of a statement when it is sent. -/
structure Context where
  sql : String
  parameters : Nat
  kind : StatementKind
  tag : Option String
deriving DecidableEq, Repr, Inhabited

namespace Context

/-- What is known of a text with so many parameters and a tag. -/
def of (sql : String) (parameters : Nat) (tag : Option String) : Context :=
  ⟨sql, parameters, .ofSql sql, tag⟩

/-- What is known of a request. -/
def ofRequest (r : Request) : Context :=
  of r.statement.sql r.statement.values.length r.tag

end Context

/-- What came of a statement. -/
inductive Outcome where
  /-- So many rows were returned. -/
  | rows (n : Nat)
  /-- So many rows were concerned. -/
  | affected (n : Nat)
  | failed (text : String)
deriving DecidableEq, Repr, Inhabited

namespace Outcome

/-- How many bytes of the text of a failure are kept. -/
def textLimit : Nat := 512

/-- A failure with a text that is kept short. -/
def ofText (text : String) : Outcome :=
  .failed (Text.shorten textLimit text)

/-- The failure that an error is. -/
def ofError : Error → Outcome
  | .timeout limit => ofText ("timeout after " ++ limit.text)
  | e => ofText e.message

/-- What came of a statement with this answer. -/
def ofAnswer {α : Type} (describe : α → Outcome) : Except Error α → Outcome
  | .ok a => describe a
  | .error e => ofError e

/-- The text of an outcome. -/
def text : Outcome → String
  | rows n => Text.natText n ++ " rows"
  | affected n => Text.natText n ++ " affected"
  | failed text => "error: " ++ text

/-- Whether the statement failed. -/
def isFailure : Outcome → Bool
  | failed _ => true
  | _ => false

end Outcome

end BoundSql
