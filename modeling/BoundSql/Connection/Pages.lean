import BoundSql.Connection.Fetch
import BoundSql.Connection.Stream
import BoundSql.Trace

/-!
# Pages

A selection is fetched page by page, or row by row. Page `k` of `size` rows has `LIMIT size` and
`OFFSET size * k`. Each pull asks the connection once. Pages end with the first empty one, rows
with the first that is missing, and both with the first error.
-/

namespace BoundSql

variable {m : Type → Type} [Monad m]

/-- The next page of a selection. -/
structure Pager where
  selection : Builder
  size : Int64
  index : Nat

namespace Pager

/-- The builder that selects the next page. -/
def page (p : Pager) : Builder :=
  p.selection.changing fun s =>
    (s.limitedTo p.size).skipping (.ofInt (p.size.toInt * p.index))

/-- The page after the next. -/
def advance (p : Pager) : Pager :=
  { p with index := p.index + 1 }

/-- The record of a page that has come. -/
def trace (p : Pager) (rows : Nat) : Trace where
  level := .debug
  target := "relq"
  fields := [("message", "fetched chunk"), ("page", Text.natText p.index),
    ("size", Text.intText p.size.toInt), ("rows", Text.natText rows)]

/-- Pulls a page, empty or not, or an error. -/
def pullPage [Tracer m] (c : Connection m) : Pull m Pager (Except Error (List Row)) := fun p => do
  match ← (p.page.fetch c).run with
  | .error e => return some (.error e, none)
  | .ok rows =>
    Tracer.emit (p.trace rows.length)
    return some (.ok rows, if rows.isEmpty then none else some p.advance)

/-- Pulls the first row of a page, or an error; an empty page has no item. -/
def pullRow (c : Connection m) : Pull m Pager (Except Error Row) := fun p => do
  match ← (p.page.fetch c).run with
  | .error e => return some (.error e, none)
  | .ok [] => return none
  | .ok (row :: _) => return some (.ok row, some p.advance)

end Pager

namespace Builder

/-- The pages of the selection, refused if they would have no rows. -/
def pages (b : Builder) (size : Int64) : Except Refusal Pager :=
  if size ≤ 0 then .error (.pageSize size) else .ok ⟨b.selecting, size, 0⟩

/-- The rows of the selection, each a page of its own. -/
def eachRow (b : Builder) : Pager :=
  ⟨b.selecting, 1, 0⟩

end Builder

end BoundSql
