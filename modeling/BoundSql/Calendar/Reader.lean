import BoundSql.Calendar.DateTime
import BoundSql.Text.Blank
import BoundSql.Text.Digits

/-!
# Reading dates and times

A reader takes what it needs from the front of a text and returns the rest. Blanks may stand
before every number. A year is up to four digits, or a sign and any number of digits; every other
number is one or two digits. Where a date and a time are separated by a space, any blanks will
do, also none.
-/

namespace BoundSql.Calendar

open BoundSql.Text (dropBlanks spanDigits digitsValue isDigit)

/-- A value and the text behind it. -/
abbrev Reader (α : Type) := List Char → Option (α × List Char)

/-- A run of digits, at least one and at most `most`. -/
def readDigits (most : Nat) : Reader Nat := fun cs =>
  match spanDigits most cs with
  | ([], _) => none
  | (digits, rest) => some (digitsValue digits, rest)

/-- One or two digits behind blanks. -/
def readShort : Reader Nat := fun cs =>
  readDigits 2 (dropBlanks cs)

/-- A year behind blanks; behind a sign it may have any number of digits. -/
def readYear : Reader Int := fun cs =>
  match dropBlanks cs with
  | '-' :: rest => (readDigits rest.length rest).map fun (n, rest) => (-(n : Int), rest)
  | '+' :: rest => (readDigits rest.length rest).map fun (n, rest) => ((n : Int), rest)
  | rest => (readDigits 4 rest).map fun (n, rest) => ((n : Int), rest)

/-- This very character. -/
def readMark (mark : Char) : Reader Unit := fun cs =>
  match cs with
  | c :: rest => if c = mark then some ((), rest) else none
  | [] => none

/-- Year, month and day of a day that exists. -/
def readDate : Reader Date := fun cs => do
  let (year, cs) ← readYear cs
  let ((), cs) ← readMark '-' cs
  let (month, cs) ← readShort cs
  let ((), cs) ← readMark '-' cs
  let (day, cs) ← readShort cs
  let date ← Date.of? year month day
  return (date, cs)

/-- Hour, minute and second; second 60 is the leap second behind second 59. -/
def readTime : Reader Time := fun cs => do
  let (hour, cs) ← readShort cs
  let ((), cs) ← readMark ':' cs
  let (minute, cs) ← readShort cs
  let ((), cs) ← readMark ':' cs
  let (second, cs) ← readShort cs
  let time ←
    if second = 60 then Time.of? hour minute 59 1000000000
    else Time.of? hour minute second 0
  return (time, cs)

/-- A date, blanks or none, and a time. -/
def readSpacedDateTime : Reader DateTime := fun cs => do
  let (date, cs) ← readDate cs
  let (time, cs) ← readTime (dropBlanks cs)
  return (⟨date, time⟩, cs)

/-- A date, the letter T, and a time. -/
def readIsoDateTime : Reader DateTime := fun cs => do
  let (date, cs) ← readDate cs
  let ((), cs) ← readMark 'T' cs
  let (time, cs) ← readTime cs
  return (⟨date, time⟩, cs)

/-- What a reader makes of a text if it takes the whole of it. -/
def Reader.whole {α : Type} (read : Reader α) (cs : List Char) : Option α :=
  match read cs with
  | some (a, []) => some a
  | _ => none

/-- The date that a text writes. -/
def Date.ofText? (s : String) : Option Date :=
  Reader.whole readDate s.toList

/-- The day of a text that writes a date, or a date and a time, between blanks. -/
def Date.ofLooseText? (s : String) : Option Date :=
  let cs := Text.trimChars s.toList
  (Reader.whole readDate cs)
    <|> (Reader.whole readSpacedDateTime cs).map DateTime.date
    <|> (Reader.whole readIsoDateTime cs).map DateTime.date

end BoundSql.Calendar
