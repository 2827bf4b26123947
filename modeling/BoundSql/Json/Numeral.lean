import BoundSql.Number.Double
import BoundSql.Text.Digits

/-!
# Numerals of JSON

An integer that fits a signed or an unsigned 64-bit word stays an integer. Any other numeral is
read in two steps: its digits fill a 64-bit significand, and one multiplication or division by a
power of ten, itself rounded, scales it. Digits for which the significand has no room count as
places only. A numeral beyond the largest number is refused.
-/

namespace BoundSql.Json

open BoundSql.Number (Double)
open BoundSql.Text (isDigit digitValue)

/-- The largest significand. -/
def significandLimit : Nat := UInt64.size - 1

/-- A significand, how many digits went into it, and the text behind them. -/
structure Gathered where
  significand : Nat
  digits : Nat
  rest : List Char

/-- Takes digits into a significand while it has room. -/
def gather : (significand digits : Nat) → List Char → Gathered
  | significand, digits, [] => ⟨significand, digits, []⟩
  | significand, digits, c :: cs =>
    if isDigit c && 10 * significand + digitValue c ≤ significandLimit then
      gather (10 * significand + digitValue c) (digits + 1) cs
    else ⟨significand, digits, c :: cs⟩

/-- Whether a text goes on with a digit. -/
def startsWithDigit : List Char → Bool
  | c :: _ => isDigit c
  | [] => false

/-- The nearest number to a power of ten. -/
def powerOfTen (n : Nat) : Double :=
  .ofRatio false (Nat.pow 10 n) 1

/-- A number scaled by a power of ten; none beyond the largest number. A small power is divided
out in steps of 308 places. -/
def scaled (x : Double) (power : Int) : Option Double :=
  if 0 ≤ power then
    if power ≤ 308 then
      let y := x.mul (powerOfTen power.toNat)
      if y.isFinite then some y else none
    else if x = .ofInt 0 then some x
    else none
  else if -308 ≤ power then some (x.div (powerOfTen (-power).toNat))
  else if x = .ofInt 0 then some x
  else scaled (x.div (powerOfTen 308)) (power + 308)
termination_by (-power).toNat

/-- The number with this sign. -/
def withSign (negative : Bool) (x : Double) : Double :=
  if negative then x.neg else x

/-- The number of a significand and a power of ten. -/
def ofParts? (negative : Bool) (significand : Nat) (power : Int) : Option Double :=
  (scaled (.ofInt significand) power).map (withSign negative)

/-- A power within the range of a 32-bit word. -/
def clampPower (power : Int) : Int :=
  max (-2147483648) (min 2147483647 power)

/-- The number behind an exponent mark. -/
def readExponent (negative : Bool) (significand : Nat) (power : Int) (cs : List Char) :
    Option (Double × List Char) := do
  let (down, cs) := match cs with
    | '+' :: rest => (false, rest)
    | '-' :: rest => (true, rest)
    | rest => (false, rest)
  let digits := cs.takeWhile isDigit
  let rest := cs.dropWhile isDigit
  if digits.isEmpty then none
  else
    let exponent := Text.digitsValue digits
    if exponent ≤ 2147483647 then
      let x ← ofParts? negative significand
        (clampPower (if down then power - exponent else power + exponent))
      return (x, rest)
    else if significand ≠ 0 && !down then none
    else return (withSign negative (.ofInt 0), rest)

/-- The number whose digits end here, or go on with an exponent. -/
def finishNumeral (negative : Bool) (significand : Nat) (power : Int) (cs : List Char) :
    Option (Double × List Char) :=
  match cs with
  | 'e' :: rest => readExponent negative significand power rest
  | 'E' :: rest => readExponent negative significand power rest
  | rest => (ofParts? negative significand power).map fun x => (x, rest)

/-- The number behind its point. -/
def readFraction (negative : Bool) (significand : Nat) (power : Int) (cs : List Char) :
    Option (Double × List Char) :=
  let taken := gather significand 0 cs
  if startsWithDigit taken.rest then
    finishNumeral negative taken.significand (power - taken.digits)
      (taken.rest.dropWhile isDigit)
  else if taken.digits = 0 then none
  else finishNumeral negative taken.significand (power - taken.digits) taken.rest

/-- A numeral: an integer or a floating-point number. -/
inductive Numeral where
  | int (n : Int)
  | float (x : Double)

/-- The numeral behind its digits before the point. -/
def afterInteger (negative : Bool) (taken : Gathered) : Option (Numeral × List Char) :=
  if startsWithDigit taken.rest then
    let rest := taken.rest.dropWhile isDigit
    let power : Int := taken.rest.length - rest.length
    match rest with
    | '.' :: rest => (readFraction negative taken.significand power rest).map
        fun (x, rest) => (.float x, rest)
    | rest => (finishNumeral negative taken.significand power rest).map
        fun (x, rest) => (.float x, rest)
  else
    match taken.rest with
    | '.' :: rest => (readFraction negative taken.significand 0 rest).map
        fun (x, rest) => (.float x, rest)
    | 'e' :: rest => (readExponent negative taken.significand 0 rest).map
        fun (x, rest) => (.float x, rest)
    | 'E' :: rest => (readExponent negative taken.significand 0 rest).map
        fun (x, rest) => (.float x, rest)
    | rest =>
      if !negative then some (.int taken.significand, rest)
      else if 0 < taken.significand && taken.significand ≤ UInt64.size / 2 then
        some (.int (-(taken.significand : Int)), rest)
      else some (.float (Double.ofInt taken.significand).neg, rest)

/-- The magnitude of a numeral: no zero stands before another digit. -/
def readMagnitude (negative : Bool) (cs : List Char) : Option (Numeral × List Char) :=
  match cs with
  | '0' :: rest => if startsWithDigit rest then none else afterInteger negative ⟨0, 1, rest⟩
  | cs => if startsWithDigit cs then afterInteger negative (gather 0 0 cs) else none

/-- A numeral with its sign. -/
def readNumeral (cs : List Char) : Option (Numeral × List Char) :=
  match cs with
  | '-' :: rest => readMagnitude true rest
  | rest => readMagnitude false rest

end BoundSql.Json
