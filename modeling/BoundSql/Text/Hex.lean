import BoundSql.Text.Digits

/-!
# Hexadecimal digits

Bytes and numbers in base sixteen. Writing uses lower case; reading takes either case.
-/

namespace BoundSql.Text

/-- What a hexadecimal digit counts. -/
def hexValue? (c : Char) : Option Nat :=
  if isDigit c then some (digitValue c)
  else if 'a' ≤ c && c ≤ 'f' then some (c.toNat - 'a'.toNat + 10)
  else if 'A' ≤ c && c ≤ 'F' then some (c.toNat - 'A'.toNat + 10)
  else none

/-- The number that a run of hexadecimal digits writes, none if another character occurs. -/
def hexDigitsValue? (cs : List Char) : Option Nat :=
  cs.foldlM (fun n c => (hexValue? c).map (16 * n + ·)) 0

/-- The last `width` hexadecimal digits of a number. -/
def hexChars : (width : Nat) → Nat → List Char
  | 0, _ => []
  | width + 1, n => hexChars width (n / 16) ++ [Nat.digitChar (n % 16)]

/-- Two digits a byte. -/
def hexOfBytes (bytes : List UInt8) : String :=
  .ofList (bytes.flatMap fun b => hexChars 2 b.toNat)

/-- The bytes that pairs of digits write. -/
def bytesOfHexChars? : List Char → Option (List UInt8)
  | [] => some []
  | [_] => none
  | a :: b :: rest => do
    let high ← hexValue? a
    let low ← hexValue? b
    let bytes ← bytesOfHexChars? rest
    return UInt8.ofNat (16 * high + low) :: bytes

end BoundSql.Text
