import BoundSql.Number.Double
import BoundSql.Text.Digits

/-!
# Shortest decimals

The decimal of a floating-point number is the one with the fewest digits that reads back as the
number, and of those the nearest one. A number is read back from every decimal between the
midpoints to its two neighbours, and from the midpoints themselves when its units are even.

## Implementation notes

Everything is a multiple of a quarter of the number's last bit, so that the midpoints are whole
too, also below a power of two where the lower neighbour is nearer. For one digit more at a time,
the two points of that decimal grid around the number are tried.
-/

namespace BoundSql.Number

/-- `digits · 10 ^ power`; the digits of a number other than zero do not end in zero. -/
structure Decimal where
  digits : Nat
  power : Int
deriving DecidableEq, Repr

/-- Which of two decimals that are equally near is taken. -/
inductive Tie where
  | up
  | even
deriving DecidableEq, Repr

namespace Decimal

/-- Zeros at the end of the digits go into the power. -/
def trimmed : (fuel : Nat) → Decimal → Decimal
  | 0, d => d
  | fuel + 1, d =>
    if d.digits ≠ 0 && d.digits % 10 = 0 then trimmed fuel ⟨d.digits / 10, d.power + 1⟩ else d

/-- How many digits a number has; none for zero. -/
def length (n : Nat) : Nat :=
  if n = 0 then 0 else (Text.natChars n).length

/-- The power of ten that the first digit of a positive quotient weighs. -/
def leading (num den : Nat) : Int :=
  if den ≤ num then (length (num / den) : Int) - 1 else -(length ((den - 1) / num) : Int)

/-- A number in quarters of its last bit, with the midpoints to its neighbours. -/
structure Span where
  low : Nat
  middle : Nat
  high : Nat
  /-- A quarter of the last bit is `2 ^ power`. -/
  power : Int
  /-- Whether the midpoints read back as the number. -/
  closed : Bool

/-- The decimals that read back as `units · 2 ^ power`. -/
def Span.of (f : Format) (units : Nat) (power : Int) : Span where
  low := 4 * units - (if units = Nat.pow 2 f.fraction && f.leastPower < power then 1 else 2)
  middle := 4 * units
  high := 4 * units + 2
  power := power - 2
  closed := units % 2 = 0

/-- The weight of one step of the grid `10 ^ grid` over the weight of a quarter, as a quotient. -/
def Span.step (s : Span) (grid : Int) : Nat × Nat :=
  (Nat.pow 10 grid.toNat * Nat.pow 2 (-s.power).toNat,
    Nat.pow 10 (-grid).toNat * Nat.pow 2 s.power.toNat)

/-- Whether `d` steps of a grid read back. -/
def Span.holds (s : Span) (step : Nat × Nat) (d : Nat) : Bool :=
  if s.closed then s.low * step.2 ≤ d * step.1 && d * step.1 ≤ s.high * step.2
  else s.low * step.2 < d * step.1 && d * step.1 < s.high * step.2

/-- The point of a grid that reads back, the nearer one of two. -/
def Span.onGrid? (s : Span) (tie : Tie) (grid : Int) : Option Nat :=
  let step := s.step grid
  let below := s.middle * step.2 / step.1
  match s.holds step below, s.holds step (below + 1) with
  | false, false => none
  | true, false => some below
  | false, true => some (below + 1)
  | true, true =>
    let toBelow := s.middle * step.2 - below * step.1
    let toAbove := (below + 1) * step.1 - s.middle * step.2
    if toBelow < toAbove then some below
    else if toAbove < toBelow then some (below + 1)
    else match tie with
      | .up => some (below + 1)
      | .even => some (if below % 2 = 0 then below else below + 1)

/-- Tries the grids from `grid` down, `count` of them; the last resort is the finest. -/
def Span.search (s : Span) (tie : Tie) : (count : Nat) → (grid : Int) → Decimal
  | 0, grid => ⟨s.middle * (s.step grid).2 / (s.step grid).1, grid⟩
  | count + 1, grid =>
    match s.onGrid? tie grid with
    | some d => ⟨d, grid⟩
    | none => s.search tie count (grid - 1)

/-- The shortest decimal of `units · 2 ^ power`, for positive units. -/
def shortest (f : Format) (tie : Tie) (units : Nat) (power : Int) : Decimal :=
  let exact := ratio units power
  let found := (Span.of f units power).search tie 17 (leading exact.1 exact.2)
  found.trimmed 18

end Decimal

end BoundSql.Number
