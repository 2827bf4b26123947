import BoundSql.Monitor.Observer
import BoundSql.Trace

/-!
# Tracing statements

The hook that writes two records for every statement: its text before it is sent, and afterwards
what came of it and how long it took. A failure is a warning, whatever the level of the hook.
-/

namespace BoundSql

open BoundSql.Calendar (Duration)

/-- How statements are traced. -/
structure TraceHook where
  level : Level := .debug
  /-- How many bytes of a text are shown; all of them without a limit. -/
  maxLength : Option Nat := some 200
deriving DecidableEq, Repr, Inhabited

namespace TraceHook

/-- Where the records come from. -/
def target : String := "relq.sql"

/-- The text of a statement as it is shown. -/
def shown (h : TraceHook) (sql : String) : String :=
  match h.maxLength with
  | some limit => Text.shorten limit sql
  | none => sql

/-- What every record says of a statement. -/
def describe (ctx : Context) : List (String × String) :=
  [("query_type", ctx.kind.name), ("tag", ctx.tag.getD "-")]

/-- The record of a statement that is about to be sent. -/
def beforeRecord (h : TraceHook) (ctx : Context) : Trace :=
  ⟨h.level, target, describe ctx ++
    [("param_count", Text.natText ctx.parameters), ("sql", h.shown ctx.sql)]⟩

/-- The record of a statement that was answered. -/
def afterRecord (h : TraceHook) (ctx : Context) (duration : Duration) (outcome : Outcome) :
    Trace :=
  let common := describe ctx ++ [("duration", duration.text)]
  match outcome with
  | .failed text => ⟨.warn, target, common ++ [("error", text), ("message", "query failed")]⟩
  | done => ⟨h.level, target, common ++ [("result", done.text), ("message", "query complete")]⟩

/-- The hook itself. -/
def hook {m : Type → Type} [Monad m] [Tracer m] (h : TraceHook) : Hook m where
  before ctx := do
    Tracer.emit (h.beforeRecord ctx)
    return .proceed
  after ctx duration outcome := Tracer.emit (h.afterRecord ctx duration outcome)

end TraceHook

end BoundSql
