import BoundSql.Text.Digits

/-!
# Durations

A duration is a number of nanoseconds. Its text uses the largest of the units second, millisecond,
microsecond and nanosecond in which it is at least one, and no more places than are needed.
-/

namespace BoundSql.Calendar

/-- A span of time. -/
structure Duration where
  nanos : Nat
deriving DecidableEq, Repr, Inhabited

namespace Duration

/-- Seconds and nanoseconds together. -/
def of (seconds nanos : Nat) : Duration :=
  ⟨seconds * 1000000000 + nanos⟩

instance : LT Duration := ⟨fun a b => a.nanos < b.nanos⟩

instance (a b : Duration) : Decidable (a < b) :=
  inferInstanceAs (Decidable (a.nanos < b.nanos))

/-- The number without the zeros at its end. -/
def withoutTrailingZeros (cs : List Char) : List Char :=
  (cs.reverse.dropWhile (· = '0')).reverse

/-- A count of a unit that has `10 ^ places` nanoseconds. -/
def inUnit (nanos places : Nat) (unit : String) : String :=
  let fraction := withoutTrailingZeros (Text.paddedChars places (nanos % Nat.pow 10 places))
  .ofList (Text.natChars (nanos / Nat.pow 10 places) ++
    (if fraction.isEmpty || places = 0 then [] else '.' :: fraction)) ++ unit

/-- The text of a duration. -/
def text (d : Duration) : String :=
  if 1000000000 ≤ d.nanos then inUnit d.nanos 9 "s"
  else if 1000000 ≤ d.nanos then inUnit d.nanos 6 "ms"
  else if 1000 ≤ d.nanos then inUnit d.nanos 3 "µs"
  else inUnit d.nanos 0 "ns"

end Duration

end BoundSql.Calendar
