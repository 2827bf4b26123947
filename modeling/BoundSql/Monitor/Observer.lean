import BoundSql.Monitor.Context

/-!
# Hooks and monitors

A `Hook` is asked before a statement is sent and told afterwards what came of it; it may refuse
the statement. A `Monitor` is told when a statement is sent, when it is answered, and when it was
slow. Several of either make one: they are asked and told in their order, and the first refusal is
the refusal of all.
-/

namespace BoundSql

open BoundSql.Calendar (Duration)

/-- What a hook says to a statement. -/
inductive Verdict where
  | proceed
  | abort (reason : String)
deriving DecidableEq, Repr, Inhabited

/-- One who is asked before statements are sent. -/
@[ext]
structure Hook (m : Type → Type) where
  before : Context → m Verdict
  after : Context → Duration → Outcome → m PUnit

/-- One who is told about statements. -/
@[ext]
structure Monitor (m : Type → Type) where
  started : Context → m PUnit
  completed : Context → Duration → Outcome → m PUnit
  slow : Context → Duration → m PUnit

variable {m : Type → Type} [Monad m]

namespace Hook

/-- The hook that lets every statement pass. -/
def none : Hook m where
  before _ := return .proceed
  after _ _ _ := return ⟨⟩

/-- The hook that refuses the statements of a kind. -/
def deny (kind : StatementKind) (reason : String) : Hook m :=
  { none with before := fun ctx => return if ctx.kind = kind then .abort reason else .proceed }

/-- What the first hook that does not let a statement pass says to it. -/
def firstAbort (ctx : Context) : List (Hook m) → m Verdict
  | [] => return .proceed
  | h :: hs => do
    match ← h.before ctx with
    | .proceed => firstAbort ctx hs
    | .abort reason => return .abort reason

/-- Hooks one after another. -/
def all (hooks : List (Hook m)) : Hook m where
  before ctx := firstAbort ctx hooks
  after ctx duration outcome := hooks.forM fun h => h.after ctx duration outcome

end Hook

namespace Monitor

/-- The monitor that ignores everything. -/
def none : Monitor m where
  started _ := return ⟨⟩
  completed _ _ _ := return ⟨⟩
  slow _ _ := return ⟨⟩

/-- The monitor that is only told what came of statements. -/
def ofCompleted (completed : Context → Duration → Outcome → m PUnit) : Monitor m :=
  { none with completed }

/-- Monitors one after another. -/
def all (monitors : List (Monitor m)) : Monitor m where
  started ctx := monitors.forM fun w => w.started ctx
  completed ctx duration outcome := monitors.forM fun w => w.completed ctx duration outcome
  slow ctx duration := monitors.forM fun w => w.slow ctx duration

end Monitor

end BoundSql
