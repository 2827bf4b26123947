import BoundSql.Number.Shortest

/-!
# Layouts of decimals

A layout says how the shortest decimal of a number is set out: which sizes are written with all
their places, what marks a whole number, and what stands for words that are no finite number.
The scientific form has one digit before the point and always a sign before its exponent.
-/

namespace BoundSql.Number

/-- The choices of one way to write numbers. -/
structure Layout where
  tie : Tie
  /-- Whether a number whose first digit weighs this power of ten has all its places written. -/
  plain : Int → Bool
  /-- What follows a whole number in plain form. -/
  whole : String
  nan : String
  infinity : String
  negativeInfinity : String

namespace Layout

/-- All places, before and after the point. -/
def plainChars (whole : String) (digits : List Char) (power : Int) : List Char :=
  if 0 ≤ power then digits ++ List.replicate power.toNat '0' ++ whole.toList
  else
    let places := (-power).toNat
    if places < digits.length then
      digits.take (digits.length - places) ++ '.' :: digits.drop (digits.length - places)
    else '0' :: '.' :: List.replicate (places - digits.length) '0' ++ digits

/-- One digit, the rest behind a point, and the exponent with its sign. -/
def scientificChars (digits : List Char) (exponent : Int) : List Char :=
  let rest := digits.drop 1
  let sign := if exponent < 0 then '-' else '+'
  digits.take 1 ++ (if rest.isEmpty then [] else '.' :: rest) ++
    'e' :: sign :: Text.natChars exponent.natAbs

/-- The text of a magnitude. -/
def magnitudeChars (l : Layout) (f : Format) (units : Nat) (power : Int) : List Char :=
  if units = 0 then '0' :: l.whole.toList
  else
    let d := Decimal.shortest f l.tie units power
    let digits := Text.natChars d.digits
    let exponent := d.power + digits.length - 1
    if l.plain exponent then plainChars l.whole digits d.power
    else scientificChars digits exponent

/-- The text of a number. -/
def write (l : Layout) (x : Double) : String :=
  match x.datum with
  | .nan .. => l.nan
  | .infinite negative => if negative then l.negativeInfinity else l.infinity
  | .finite negative units power =>
    let text := l.magnitudeChars .double units power
    .ofList (if negative then '-' :: text else text)

end Layout

end BoundSql.Number
