import BoundSql.Sql.Printer
import BoundSql.Text.Digits

/-!
# Markers in fragments

A marker is an opening brace, decimal digits and a closing brace. One whose number is the position
of a value is replaced by a placeholder for that value; a marker met twice binds its value twice.
Every other marker and every other brace is text.

## Implementation notes

The scan goes over the signature once. Its state is what has been written, and what has been read
of a possible marker: the digits behind the last opening brace, if nothing else stands between.
What is written is not read again.
-/

namespace BoundSql.Sql

/-- The opening brace of a marker. -/
def openBrace : Char := '\x7b'

/-- The closing brace of a marker. -/
def closeBrace : Char := '\x7d'

namespace Dialect

/-- A marker whose digits are known: a placeholder if there is a value at that position. -/
def marker (d : Dialect) (values : List Value) (digits : List Char) : Printer String :=
  match values[Text.digitsValue digits]? with
  | some v => d.bindValue v
  | none => return .ofList (openBrace :: digits ++ [closeBrace])

/-- What is written, and the rest of the signature behind it. `pending` holds the digits behind an
opening brace that may yet turn out to be a marker's. -/
def scan (d : Dialect) (values : List Value) :
    (written : String) → (pending : Option (List Char)) → List Char → Printer String
  | written, none, [] => return written
  | written, some digits, [] => return written ++ .ofList (openBrace :: digits)
  | written, none, c :: rest =>
    if c = openBrace then scan d values written (some []) rest
    else scan d values (written.push c) none rest
  | written, some digits, c :: rest =>
    if Text.isDigit c then scan d values written (some (digits ++ [c])) rest
    else if c = closeBrace && !digits.isEmpty then do
      let filled ← d.marker values digits
      scan d values (written ++ filled) none rest
    else if c = openBrace then
      scan d values (written ++ .ofList (openBrace :: digits)) (some []) rest
    else scan d values (written ++ .ofList (openBrace :: digits ++ [c])) none rest

/-- The text of a fragment with a placeholder for every marker that has a value. -/
def fill (d : Dialect) (f : Fragment) : Printer String :=
  d.scan f.values "" none f.signature.toList

end Dialect

end BoundSql.Sql
