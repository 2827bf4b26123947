import BoundSql.Calendar.Date

/-!
# Times of day

A `Time` counts the second of the day and the nanoseconds of that second. A leap second is counted
with the second before it: its nanoseconds go on from one thousand million.
-/

namespace BoundSql.Calendar

/-- A time of day. -/
structure Time where
  second : Nat
  nanos : Nat
  second_lt : second < 86400
  nanos_lt : nanos < 2000000000
deriving DecidableEq

/-- A day and a time of it. -/
structure DateTime where
  date : Date
  time : Time
deriving DecidableEq

namespace Time

/-- Midnight. -/
def midnight : Time := ⟨0, 0, by decide, by decide⟩

instance : Inhabited Time := ⟨midnight⟩

/-- The time of a clock that shows these numbers, if it can. -/
def of? (hour minute second nanos : Nat) : Option Time :=
  if h : hour < 24 ∧ minute < 60 ∧ second < 60 ∧ nanos < 2000000000 then
    some ⟨hour * 3600 + minute * 60 + second, nanos, by omega, h.2.2.2⟩
  else none

/-- The hour that the clock shows. -/
def hourShown (t : Time) : Nat := t.second / 3600

/-- The minute that the clock shows. -/
def minuteShown (t : Time) : Nat := t.second / 60 % 60

/-- Whether the time lies in a leap second. -/
def isLeap (t : Time) : Bool := 1000000000 ≤ t.nanos

end Time

namespace DateTime

instance : Inhabited DateTime := ⟨default, default⟩

/-- Nanoseconds from the first moment of 2000; those of a leap second are counted on. -/
def nanosSinceEpoch (t : DateTime) : Int :=
  (t.date.dayNumber * 86400 + t.time.second) * 1000000000 + t.time.nanos

/-- The moment so many microseconds after the first of 2000, if its year is in range. -/
def ofMicrosSinceEpoch? (micros : Int) : Option DateTime :=
  let seconds := micros.fdiv 1000000
  let second := (seconds.fmod 86400).toNat
  let nanos := (micros.fmod 1000000).toNat * 1000
  if h : second < 86400 ∧ nanos < 2000000000 then
    (Date.ofDayNumber? (seconds.fdiv 86400)).map fun date => ⟨date, second, nanos, h.1, h.2⟩
  else none

/-- The same moment on a clock that is `offset` seconds behind. -/
def behind? (t : DateTime) (offset : Int) : Option DateTime :=
  let seconds := t.date.dayNumber * 86400 + t.time.second - offset
  let second := (seconds.fmod 86400).toNat
  if h : second < 86400 then
    (Date.ofDayNumber? (seconds.fdiv 86400)).map fun date =>
      ⟨date, second, t.time.nanos, h, t.time.nanos_lt⟩
  else none

end DateTime

end BoundSql.Calendar
