/-!
# Calendar days

Days of the Gregorian calendar carried back without end, with a year zero. A `Date` is a day that
exists, in the years from -262143 to 262142. Days are counted from 1 January 2000.

## Implementation notes

The count runs over years that begin in March, so that the leap day is the last of its year, and
over eras of 400 years, which have 146097 days each.
-/

namespace BoundSql.Calendar

/-- A year has a leap day if 4 divides it, full centuries only if 400 does. -/
def isLeap (year : Int) : Bool :=
  year % 4 = 0 && (year % 100 ≠ 0 || year % 400 = 0)

/-- The days of a month; none for a number that is no month. -/
def daysIn (year : Int) (month : Nat) : Nat :=
  match month with
  | 1 | 3 | 5 | 7 | 8 | 10 | 12 => 31
  | 4 | 6 | 9 | 11 => 30
  | 2 => if isLeap year then 29 else 28
  | _ => 0

/-- The first year. -/
def firstYear : Int := -262143

/-- The last year. -/
def lastYear : Int := 262142

/-- The year is in range and has this month, and the month has this day. -/
def IsDay (year : Int) (month day : Nat) : Prop :=
  firstYear ≤ year ∧ year ≤ lastYear ∧ 1 ≤ day ∧ day ≤ daysIn year month

instance (year : Int) (month day : Nat) : Decidable (IsDay year month day) :=
  inferInstanceAs (Decidable (_ ∧ _ ∧ _ ∧ _))

/-- A day that exists. -/
structure Date where
  year : Int
  month : Nat
  day : Nat
  isDay : IsDay year month day
deriving DecidableEq

namespace Date

instance : Inhabited Date := ⟨2000, 1, 1, by decide⟩

/-- The day of these numbers, if it exists. -/
def of? (year : Int) (month day : Nat) : Option Date :=
  if h : IsDay year month day then some ⟨year, month, day, h⟩ else none

/-- The day 1 January 2000, counted from 1 March of the year zero. -/
def epoch : Int := 730425

/-- The days from 1 January 2000 to a day, negative before it. -/
def dayNumber (d : Date) : Int :=
  let year := if d.month ≤ 2 then d.year - 1 else d.year
  let era := year.fdiv 400
  let yearOfEra := year - era * 400
  let month : Int := (d.month + 9) % 12
  let dayOfYear := (153 * month + 2) / 5 + d.day - 1
  era * 146097 + yearOfEra * 365 + yearOfEra / 4 - yearOfEra / 100 + dayOfYear - epoch

/-- The day with a number, none outside the range of years. -/
def ofDayNumber? (number : Int) : Option Date :=
  let days := number + epoch
  let era := days.fdiv 146097
  let dayOfEra := days - era * 146097
  let yearOfEra := (dayOfEra - dayOfEra / 1460 + dayOfEra / 36524 - dayOfEra / 146096) / 365
  let dayOfYear := dayOfEra - (365 * yearOfEra + yearOfEra / 4 - yearOfEra / 100)
  let month := (5 * dayOfYear + 2) / 153
  let day := dayOfYear - (153 * month + 2) / 5 + 1
  let january := if month < 10 then month + 3 else month - 9
  let year := yearOfEra + era * 400 + (if january ≤ 2 then 1 else 0)
  of? year january.toNat day.toNat

/-- What `of?` accepts is the day asked for. -/
theorem of?_eq_some_iff {year : Int} {month day : Nat} {d : Date} :
    of? year month day = some d ↔ d.year = year ∧ d.month = month ∧ d.day = day := by
  cases d with
  | mk y m n h =>
    unfold of?
    constructor
    · intro he
      split at he
      · cases he
        exact ⟨rfl, rfl, rfl⟩
      · cases he
    · rintro ⟨rfl, rfl, rfl⟩
      rw [dif_pos h]

/-- A day is found from its numbers. -/
theorem of?_self (d : Date) : of? d.year d.month d.day = some d :=
  of?_eq_some_iff.mpr ⟨rfl, rfl, rfl⟩

end Date

end BoundSql.Calendar
