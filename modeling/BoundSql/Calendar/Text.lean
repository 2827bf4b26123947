import BoundSql.Calendar.DateTime
import BoundSql.Text.Digits

/-!
# Dates and times as text

Year, month and day are joined by hyphens, hour, minute and second by colons. A year that does
not fit four digits has a sign. A fraction of a second takes three, six or nine digits, the fewest
that are exact. A leap second is shown as one second more.
-/

namespace BoundSql.Calendar

open BoundSql.Text (paddedChars)

/-- Four digits, behind a sign for years before 0 and after 9999. -/
def yearChars (year : Int) : List Char :=
  if 0 ≤ year && year ≤ 9999 then paddedChars 4 year.natAbs
  else (if year < 0 then '-' else '+') :: paddedChars 4 year.natAbs

/-- Year, month and day. -/
def Date.chars (d : Date) : List Char :=
  yearChars d.year ++ '-' :: paddedChars 2 d.month ++ '-' :: paddedChars 2 d.day

/-- The fraction of a second, nothing for a whole one. -/
def fractionChars (nanos : Nat) : List Char :=
  if nanos = 0 then []
  else if nanos % 1000000 = 0 then '.' :: paddedChars 3 (nanos / 1000000)
  else if nanos % 1000 = 0 then '.' :: paddedChars 6 (nanos / 1000)
  else '.' :: paddedChars 9 nanos

/-- Hour, minute and second, and the fraction of the second if there is one. -/
def Time.chars (t : Time) : List Char :=
  let leap := if t.isLeap then 1 else 0
  paddedChars 2 t.hourShown ++ ':' :: paddedChars 2 t.minuteShown ++
    ':' :: paddedChars 2 (t.second % 60 + leap) ++
    fractionChars (if t.isLeap then t.nanos - 1000000000 else t.nanos)

/-- The date, one character, and the time. -/
def DateTime.chars (between : Char) (t : DateTime) : List Char :=
  t.date.chars ++ between :: t.time.chars

/-- The text of a date. -/
def Date.text (d : Date) : String :=
  .ofList d.chars

/-- The text of a moment for people: a space before the time. -/
def DateTime.text (t : DateTime) : String :=
  .ofList (t.chars ' ')

/-- The text of a moment in data: the letter T before the time. -/
def DateTime.isoText (t : DateTime) : String :=
  .ofList (t.chars 'T')

end BoundSql.Calendar
