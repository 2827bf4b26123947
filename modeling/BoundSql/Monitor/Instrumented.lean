import BoundSql.Monitor.Observer

/-!
# Instrumented connections

A connection with hooks, a monitor and a limit of time. The hooks are asked first; a refusal is
the answer, and nobody else hears of the statement. Then the monitor is told, the statement is
sent, the hooks are told what came of it, then the monitor, and last the monitor again if it was
slow. The monitor is only told while monitoring is on. The answer is that of the connection, or
the error of the limit.
-/

namespace BoundSql

open BoundSql.Calendar (Duration)

/-- Monads with a clock. -/
class Timed (m : Type → Type) where
  /-- Runs an action and measures how long it takes. -/
  measure : {α : Type} → m α → m (α × Duration)
  /-- Runs an action, and gives it up if it takes longer than a limit. -/
  within : {α : Type} → Duration → m α → m (Option α)

/-- What is watched. -/
structure Watch where
  /-- How long a statement may take. -/
  limit : Option Duration := none
  /-- What is longer than this is slow. -/
  slow : Option Duration := none
  /-- Whether the monitor is told. -/
  monitoring : Bool := false
deriving DecidableEq, Repr, Inhabited

/-- A connection with those who observe it. -/
structure Instrumented (m : Type → Type) where
  inner : Connection m
  monitor : Monitor m
  /-- The hooks as one, if there are any. -/
  hook : Option (Hook m) := none
  watch : Watch := {}

namespace Instrumented

variable {m : Type → Type} [Monad m]

/-- The same with one more hook behind the others. -/
def addHook (i : Instrumented m) (h : Hook m) : Instrumented m :=
  { i with
    hook := match i.hook with
      | none => some h
      | some others => some (.all [others, h]) }

/-- What is asked before statements and told afterwards; without hooks it lets all of them pass. -/
def hooked (i : Instrumented m) : Hook m :=
  i.hook.getD .none

/-- Tells the monitor something, if monitoring is on. -/
def tell (i : Instrumented m) (event : Monitor m → m PUnit) : m PUnit :=
  if i.watch.monitoring then event i.monitor else return ⟨⟩

/-- Whether a statement that took so long is slow. -/
def isSlow (i : Instrumented m) (duration : Duration) : Bool :=
  i.watch.slow.any fun threshold => threshold < duration

/-- Tells what came of a statement, and the monitor again if the statement was slow. -/
def report (i : Instrumented m) (ctx : Context) (duration : Duration) (outcome : Outcome) :
    m PUnit := do
  i.hooked.after ctx duration outcome
  i.tell fun monitor => monitor.completed ctx duration outcome
  if i.isSlow duration then i.tell fun monitor => monitor.slow ctx duration

/-- A call that may not take longer than the limit. -/
def limited [Timed m] (i : Instrumented m) {α : Type} (call : ExceptT Error m α) :
    m (Except Error α) :=
  match i.watch.limit with
  | none => call.run
  | some limit => do
    return (← Timed.within limit call.run).getD (.error (.timeout limit))

/-- A call for a request, with all that is told of it. -/
def observe [Timed m] (i : Instrumented m) (request : Request) {α : Type}
    (describe : α → Outcome) (call : ExceptT Error m α) : ExceptT Error m α := .mk do
  let ctx := Context.ofRequest request
  match ← i.hooked.before ctx with
  | .abort reason => return .error (.validation (.hook reason))
  | .proceed =>
    i.tell fun monitor => monitor.started ctx
    let (answer, duration) ← Timed.measure (i.limited call)
    i.report ctx duration (.ofAnswer describe answer)
    return answer

/-- The connection that is observed. -/
def connection [Timed m] (i : Instrumented m) : Connection m where
  send request :=
    i.observe request (fun rows => .rows rows.length) (i.inner.send request)
  execute request := i.observe request .affected (i.inner.execute request)

end Instrumented

end BoundSql
