/-!
# Trace records

A `Trace` is a record for the log of an application: how important it is, which part it comes
from, and named texts. A `Tracer` is a monad that has such a log.
-/

namespace BoundSql

/-- How important a record is, the most important first. -/
inductive Level where
  | error
  | warn
  | info
  | debug
  | trace
deriving DecidableEq, Repr, Inhabited

/-- The word for a level. -/
def Level.name : Level → String
  | error => "ERROR"
  | warn => "WARN"
  | info => "INFO"
  | debug => "DEBUG"
  | trace => "TRACE"

/-- The level of a word. -/
def Level.ofName? (s : String) : Option Level :=
  [error, warn, info, debug, trace].find? fun level => level.name = s

/-- One record. -/
structure Trace where
  level : Level
  target : String
  fields : List (String × String)
deriving DecidableEq, Repr, Inhabited

/-- Monads with a log for records. -/
class Tracer (m : Type → Type) where
  emit : Trace → m PUnit

end BoundSql
