import BoundSql.Monitor.Observer

/-!
# Statistics

`Stats` counts the statements that were answered, by kind, adds up how long they took and keeps
the text of the slowest one. All numbers are words of 64 bits. Times are counted in nanoseconds;
one that does not fit counts as the largest word, and the sum stays at the largest word once it
would leave it. Of equally slow statements the first is kept; one that took no time is not.
-/

namespace BoundSql

open BoundSql.Calendar (Duration)

/-- Numbers of statements of the kinds that are counted apart. -/
structure KindCounts where
  select : UInt64
  insert : UInt64
  update : UInt64
  delete : UInt64
  truncate : UInt64
deriving DecidableEq, Repr, Inhabited

/-- What is known of the statements that were answered. -/
structure Stats where
  total : UInt64
  failed : UInt64
  kinds : KindCounts
  totalNanos : UInt64
  maxNanos : UInt64
  slowest : Option String
deriving DecidableEq, Repr, Inhabited

/-- One more statement of a kind. -/
def KindCounts.add (c : KindCounts) : StatementKind → KindCounts
  | .select => { c with select := c.select + 1 }
  | .insert => { c with insert := c.insert + 1 }
  | .update => { c with update := c.update + 1 }
  | .delete => { c with delete := c.delete + 1 }
  | .truncate => { c with truncate := c.truncate + 1 }
  | .other => c

/-- The largest word. -/
def largestWord : UInt64 := .ofNat (UInt64.size - 1)

/-- A number of nanoseconds as a word. -/
def clampedNanos (d : Duration) : UInt64 :=
  if d.nanos < UInt64.size then .ofNat d.nanos else largestWord

/-- The sum of two words, or the largest word if the sum is none. -/
def saturatingAdd (a b : UInt64) : UInt64 :=
  if a.toNat + b.toNat < UInt64.size then a + b else largestWord

namespace Stats

/-- Before any statement. -/
def empty : Stats := ⟨0, 0, ⟨0, 0, 0, 0, 0⟩, 0, 0, none⟩

/-- One more statement that took so long and came out so. -/
def add (s : Stats) (ctx : Context) (duration : Duration) (outcome : Outcome) : Stats :=
  let nanos := clampedNanos duration
  { total := s.total + 1
    failed := if outcome.isFailure then s.failed + 1 else s.failed
    kinds := s.kinds.add ctx.kind
    totalNanos := saturatingAdd s.totalNanos nanos
    maxNanos := max s.maxNanos nanos
    slowest := if s.maxNanos < nanos then some ctx.sql else s.slowest }

/-- The monitor that keeps statistics in a place. -/
def monitor {m : Type → Type} [Monad m] (modify : (Stats → Stats) → m PUnit) : Monitor m :=
  .ofCompleted fun ctx duration outcome => modify fun s => s.add ctx duration outcome

end Stats

end BoundSql
