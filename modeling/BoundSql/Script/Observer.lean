import BoundSql.Script.Basic

/-!
# Observers on a stage

Hooks and monitors that make entries in the log of a stage, and monitors that keep their
statistics there.
-/

namespace BoundSql.Script

/-- The hook that lets every statement pass and makes entries in the log. -/
def hook (name : String) : Hook Play where
  before ctx := do
    Play.note (.asked name ctx)
    return .proceed
  after _ _ outcome := Play.note (.told name outcome)

/-- The monitor that makes entries in the log. -/
def monitor (name : String) : Monitor Play where
  started ctx := Play.note (.started name ctx)
  completed _ _ outcome := Play.note (.completed name outcome)
  slow ctx _ := Play.note (.slow name ctx)

/-- The monitor that makes entries of what came of statements. -/
def briefMonitor (name : String) : Monitor Play :=
  .ofCompleted (monitor name).completed

/-- The monitor that keeps statistics in a place of the stage. -/
def counter (place : Nat) : Monitor Play :=
  Stats.monitor fun f => modify fun s => { s with stats := s.stats.modify place f }

end BoundSql.Script
