/-!
# Binary floating-point words

A format has so many bits for the fraction and so many for the exponent. `decode` reads a word
as an exact datum; `nearest` gives the word of the number nearest to a quotient, ties to the
even word. All arithmetic is exact.

## Implementation notes

Words are natural numbers. A finite datum is `units · 2 ^ power`, where the power is never below
the format's least power; the word of a magnitude is then one sum, also where it carries into
the exponent or reaches infinity.
-/

namespace BoundSql.Number

/-- The widths of the fraction and of the exponent, in bits. -/
structure Format where
  fraction : Nat
  exponent : Nat
deriving DecidableEq, Repr

/-- What a word stands for. -/
inductive Datum where
  | nan (negative : Bool) (payload : Nat)
  | infinite (negative : Bool)
  /-- `units · 2 ^ power` -/
  | finite (negative : Bool) (units : Nat) (power : Int)
deriving DecidableEq, Repr

/-- A quotient rounded to the nearest natural number, a half to the even one. -/
def divNearest (num den : Nat) : Nat :=
  let quotient := num / den
  let rest := num % den
  if den < 2 * rest || (den = 2 * rest && quotient % 2 = 1) then quotient + 1 else quotient

/-- `units · 2 ^ power` as a quotient of natural numbers. -/
def ratio (units : Nat) (power : Int) : Nat × Nat :=
  if 0 ≤ power then (units * Nat.pow 2 power.toNat, 1)
  else (units, Nat.pow 2 (-power).toNat)

namespace Format

/-- Eight bytes: 52 bits of fraction. -/
def double : Format := ⟨52, 11⟩

/-- Four bytes: 23 bits of fraction. -/
def single : Format := ⟨23, 8⟩

/-- The exponent field that marks infinities and what is no number. -/
def lastField (f : Format) : Nat :=
  Nat.pow 2 f.exponent - 1

/-- The power of two that the last bit of the smallest number weighs. -/
def leastPower (f : Format) : Int :=
  2 - Nat.pow 2 (f.exponent - 1) - f.fraction

/-- The word of positive infinity. -/
def infinity (f : Format) : Nat :=
  f.lastField * Nat.pow 2 f.fraction

/-- The word of the sign alone. -/
def signWord (f : Format) : Nat :=
  Nat.pow 2 (f.fraction + f.exponent)

/-- Reads the sign, the exponent field and the fraction of a word. -/
def decode (f : Format) (word : Nat) : Datum :=
  let negative := word / f.signWord % 2 = 1
  let field := word / Nat.pow 2 f.fraction % Nat.pow 2 f.exponent
  let fraction := word % Nat.pow 2 f.fraction
  if field = f.lastField then
    if fraction = 0 then .infinite negative else .nan negative fraction
  else if field = 0 then .finite negative fraction f.leastPower
  else .finite negative (Nat.pow 2 f.fraction + fraction) (f.leastPower + (field - 1 : Nat))

/-- The word of the magnitude nearest to a quotient, infinity beyond the largest number. -/
def nearest (f : Format) (num den : Nat) : Nat :=
  if num = 0 then 0 else
    let size : Int := Nat.log2 num - Nat.log2 den
    let low := max f.leastPower (size - 1 - f.fraction)
    let scaled (power : Int) : Nat × Nat :=
      if 0 ≤ power then (num, den * Nat.pow 2 power.toNat)
      else (num * Nat.pow 2 (-power).toNat, den)
    let atLow := scaled low
    let power := if Nat.pow 2 (f.fraction + 1) ≤ atLow.1 / atLow.2 then low + 1 else low
    let exact := scaled power
    min f.infinity
      ((power - f.leastPower).toNat * Nat.pow 2 f.fraction + divNearest exact.1 exact.2)

/-- A magnitude with its sign. -/
def signed (f : Format) (negative : Bool) (magnitude : Nat) : Nat :=
  if negative then f.signWord + magnitude else magnitude

/-- The word of the format nearest to a word of another format. What is no number stays so: it
keeps the leading bits of its payload, and the first of them is set. -/
def convert (source target : Format) (word : Nat) : Nat :=
  match source.decode word with
  | .nan negative payload =>
    let moved :=
      if source.fraction ≤ target.fraction then
        payload * Nat.pow 2 (target.fraction - source.fraction)
      else payload / Nat.pow 2 (source.fraction - target.fraction)
    let quiet := Nat.pow 2 (target.fraction - 1)
    target.signed negative (target.infinity + (if moved < quiet then moved + quiet else moved))
  | .infinite negative => target.signed negative target.infinity
  | .finite negative units power =>
    let exact := ratio units power
    target.signed negative (target.nearest exact.1 exact.2)

end Format

end BoundSql.Number
