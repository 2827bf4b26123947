import BoundSql.Connection.Basic
import BoundSql.Monitor.Instrumented
import BoundSql.Monitor.Stats
import BoundSql.Trace

/-!
# Scripted databases

A scripted database has its replies prepared and gives them out one after another, whatever it is
asked; without further replies it returns no rows. It stands on a `Stage` with a clock, a log of
all that happens, and places for statistics. A `Play` is what happens on a stage. It hangs if it
waits for a reply that never comes and nothing limits its time.
-/

namespace BoundSql

open BoundSql.Calendar (Duration)

namespace Script

/-- What a database says in the end. -/
inductive Answer where
  | rows (rows : List Row)
  | affected (n : Nat)
  | failure (error : Error)
deriving Inhabited

/-- What a database does with a request. -/
inductive Reply where
  | after (delay : Duration) (answer : Answer)
  | never
deriving Inhabited

/-- The rows of an answer; a number of rows comes without them. -/
def Answer.toRows : Answer → Except Error (List Row)
  | .rows list => .ok list
  | .affected _ => .ok []
  | .failure e => .error e

/-- The number of rows that an answer says or returns. -/
def Answer.toCount : Answer → Except Error Nat
  | .rows list => .ok list.length
  | .affected n => .ok n
  | .failure e => .error e

/-- What is asked of a database. -/
inductive Method where
  | send
  | execute
deriving DecidableEq, Repr, Inhabited

/-- What happens on a stage. -/
inductive Entry where
  | sent (method : Method) (request : Request)
  | asked (hook : String) (ctx : Context)
  | told (hook : String) (outcome : Outcome)
  | started (monitor : String) (ctx : Context)
  | completed (monitor : String) (outcome : Outcome)
  | slow (monitor : String) (ctx : Context)
  | traced (trace : Trace)
deriving Inhabited

end Script

open Script

/-- Where a scripted database stands. -/
structure Stage where
  replies : List Reply
  /-- How many nanoseconds have passed. -/
  clock : Nat := 0
  log : List Entry := []
  /-- The statistics that are kept, each in its place. -/
  stats : List Stats := []
deriving Inhabited

/-- What happens on a stage, with a result unless it hangs. -/
abbrev Play := OptionT (StateM Stage)

namespace Stage

/-- The stage with one more entry in its log. -/
def note (s : Stage) (e : Entry) : Stage :=
  { s with log := s.log ++ [e] }

/-- The next reply and those behind it. -/
def next (s : Stage) : Reply × List Reply :=
  match s.replies with
  | [] => (.after ⟨0⟩ (.rows []), [])
  | reply :: rest => (reply, rest)

end Stage

namespace Play

/-- Makes an entry in the log. -/
def note (e : Entry) : Play PUnit :=
  modify fun s => s.note e

/-- Ends a play that was given up at the end of its time. -/
def giveUp {α : Type} (start : Nat) (limit : Duration) : StateM Stage (Option (Option α)) := do
  modify fun s => { s with clock := start + limit.nanos }
  return some none

instance : Tracer Play where
  emit t := note (.traced t)

/-- Measured times are rounded up, so that nothing takes no time. -/
instance : Timed Play where
  measure play := .mk do
    let start := (← get).clock
    match ← play.run with
    | some a => return some (a, ⟨(← get).clock - start + 1⟩)
    | none => return none
  within limit play := .mk do
    let start := (← get).clock
    match ← play.run with
    | some a =>
      if (← get).clock - start ≤ limit.nanos then return some (some a) else giveUp start limit
    | none => giveUp start limit

/-- Waits for the reply to a request. -/
def ask (method : Method) (request : Request) : Play Answer := do
  note (.sent method request)
  let (reply, rest) := (← getThe Stage).next
  modify fun s => { s with replies := rest }
  match reply with
  | .never => failure
  | .after delay answer =>
    modify fun s => { s with clock := s.clock + delay.nanos }
    return answer

end Play

namespace Script

/-- The scripted database. -/
def connection : Connection Play where
  send request := .mk do return (← Play.ask .send request).toRows
  execute request := .mk do return (← Play.ask .execute request).toCount

/-- The scripted database behind a connection that only returns rows. -/
def rowsOnly : Connection Play :=
  .ofSend fun statement => connection.send ⟨none, statement⟩

end Script

end BoundSql
