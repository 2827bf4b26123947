import BoundSql.Number.BigEndian
import BoundSql.Text.Hex

/-!
# Universally unique identifiers

An identifier is 128 bits. It is written as 32 lower-case hexadecimal digits in groups of 8, 4, 4,
4 and 12, and read with those groups, alone, in braces or behind `urn:uuid:`, or as 32 digits
without groups. Letters are read in either case.
-/

namespace BoundSql

/-- An identifier of 128 bits. -/
structure Uuid where
  bits : BitVec 128
deriving DecidableEq, Inhabited

namespace Uuid

/-- The lengths of the groups of digits. -/
def groups : List Nat := [8, 4, 4, 4, 12]

/-- Digits cut into groups that are joined by hyphens. -/
def grouped : List Nat → List Char → List Char
  | [], cs => cs
  | [_], cs => cs
  | n :: ns, cs => cs.take n ++ '-' :: grouped ns (cs.drop n)

/-- The text of an identifier. -/
def text (u : Uuid) : String :=
  .ofList (grouped groups (Text.hexChars 32 u.bits.toNat))

/-- The digits of joined groups of these lengths, none if the joints are elsewhere. -/
def ungrouped? : List Nat → List Char → Option (List Char)
  | [], cs => if cs.isEmpty then some [] else none
  | [n], cs => if cs.length = n then some cs else none
  | n :: ns, cs =>
    match cs.drop n with
    | '-' :: rest => (ungrouped? ns rest).map (cs.take n ++ ·)
    | _ => none

/-- What 32 hexadecimal digits write. -/
def ofDigits? (cs : List Char) : Option Uuid :=
  if cs.length = 32 then (Text.hexDigitsValue? cs).map fun n => ⟨.ofNat 128 n⟩ else none

/-- What the grouped form writes. -/
def ofGrouped? (cs : List Char) : Option Uuid :=
  (ungrouped? groups cs).bind ofDigits?

/-- The text inside a pair of braces. -/
def unbraced? (cs : List Char) : Option (List Char) :=
  match cs with
  | '\x7b' :: rest => if rest.getLast? = some '\x7d' then some rest.dropLast else none
  | _ => none

/-- The text behind `urn:uuid:`. -/
def unnamed? (cs : List Char) : Option (List Char) :=
  if (cs.take 9).map Char.toLower = "urn:uuid:".toList then some (cs.drop 9) else none

/-- The identifier that a text writes. -/
def ofText? (s : String) : Option Uuid :=
  let cs := s.toList
  ofDigits? cs <|> ofGrouped? cs <|> (unbraced? cs).bind ofGrouped? <|>
    (unnamed? cs).bind ofGrouped?

/-- The sixteen bytes, the most significant first. -/
def bytes (u : Uuid) : List UInt8 :=
  Number.bytesOf 16 u.bits.toNat

/-- The identifier of sixteen bytes. -/
def ofBytes? (bytes : List UInt8) : Option Uuid :=
  (Number.ofBytes? 16 bytes).map fun n => ⟨.ofNat 128 n⟩

end Uuid

end BoundSql
