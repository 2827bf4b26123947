import BoundSql.Calendar.DateTime
import BoundSql.Json.Reader
import BoundSql.Number.BigEndian
import BoundSql.Number.Double
import BoundSql.Text.Utf8
import BoundSql.Uuid

/-!
# The binary format

How values of each type are written as bytes, and how bytes are read. Numbers are big-endian and
have a fixed length. Days are counted from the first of 2000, times in microseconds from its
midnight. `Codecs.binary` is the format; what binds values or reads cells takes any `Codecs`.
-/

namespace BoundSql.Postgres

open BoundSql.Calendar (Date DateTime)
open BoundSql.Number (Double Single bytesOf ofBytes ofBytes?)

/-- Bytes on their way to a database or back. -/
abbrev Bytes := List UInt8

/-- The bytes of a value, or null. -/
abbrev Cell := Option Bytes

/-- A way to write values and to read them. -/
structure Codec (α : Type) where
  encode : α → Bytes
  decode : Bytes → Option α

/-- Whether what is written is read again. -/
def Codec.Lawful {α : Type} (c : Codec α) : Prop :=
  ∀ a, c.decode (c.encode a) = some a

/-- The codecs of all types. -/
structure Codecs where
  bool : Codec Bool
  bytea : Codec Bytes
  int2 : Codec Int16
  int4 : Codec Int32
  int8 : Codec Int64
  oid : Codec UInt32
  float4 : Codec Single
  float8 : Codec Double
  date : Codec Date
  timestamp : Codec DateTime
  uuid : Codec Uuid
  json : Codec Json
  jsonb : Codec Json
  text : Codec String
  /-- The members of an array whose members have an object identifier and are numbered from a
  lowest index. -/
  array : (memberId lowest : Nat) → Codec (List Cell)

/-- The single byte of a truth value; every byte but zero is true. -/
def boolCodec : Codec Bool where
  encode b := [if b then 1 else 0]
  decode
    | [b] => some (b ≠ 0)
    | _ => none

/-- Words of two bytes. -/
def int2Codec : Codec Int16 where
  encode n := bytesOf 2 n.toUInt16.toNat
  decode bytes := (ofBytes? 2 bytes).map fun n => (UInt16.ofNat n).toInt16

/-- Words of four bytes. -/
def int4Codec : Codec Int32 where
  encode n := bytesOf 4 n.toUInt32.toNat
  decode bytes := (ofBytes? 4 bytes).map fun n => (UInt32.ofNat n).toInt32

/-- Words of eight bytes. -/
def int8Codec : Codec Int64 where
  encode n := bytesOf 8 n.toUInt64.toNat
  decode bytes := (ofBytes? 8 bytes).map fun n => (UInt64.ofNat n).toInt64

/-- Object identifiers, words of four bytes without a sign. -/
def oidCodec : Codec UInt32 where
  encode n := bytesOf 4 n.toNat
  decode bytes := (ofBytes? 4 bytes).map .ofNat

/-- Numbers of single precision. -/
def float4Codec : Codec Single where
  encode x := bytesOf 4 x.word.toNat
  decode bytes := (ofBytes? 4 bytes).map fun n => ⟨.ofNat n⟩

/-- Numbers of double precision. -/
def float8Codec : Codec Double where
  encode x := bytesOf 8 x.word.toNat
  decode bytes := (ofBytes? 8 bytes).map fun n => ⟨.ofNat n⟩

/-- Days, counted in a word of four bytes. -/
def dateCodec : Codec Date where
  encode d := int4Codec.encode (.ofInt d.dayNumber)
  decode bytes := (int4Codec.decode bytes).bind fun n => Date.ofDayNumber? n.toInt

/-- Moments, counted in a word of eight bytes; parts of a microsecond are cut off. -/
def timestampCodec : Codec DateTime where
  encode t := int8Codec.encode (.ofInt (t.nanosSinceEpoch.tdiv 1000))
  decode bytes := (int8Codec.decode bytes).bind fun n => DateTime.ofMicrosSinceEpoch? n.toInt

/-- The text of a JSON value. -/
def jsonCodec : Codec Json where
  encode j := Text.utf8Bytes j.write
  decode bytes := (Text.ofUtf8? bytes).bind Json.read?

/-- The text of a JSON value behind the number of the format, which is one. -/
def jsonbCodec : Codec Json where
  encode j := 1 :: jsonCodec.encode j
  decode
    | 1 :: bytes => jsonCodec.decode bytes
    | _ => none

/-- A length and so many bytes; null has the length minus one and no bytes. -/
def cellBytes : Cell → Bytes
  | none => int4Codec.encode (-1)
  | some bytes => bytesOf 4 bytes.length ++ bytes

/-- The signed number of the first four bytes, and what follows. -/
def readInt4 (bytes : Bytes) : Option (Int × Bytes) :=
  (int4Codec.decode (bytes.take 4)).map fun n => (n.toInt, bytes.drop 4)

/-- A cell and what follows; every negative length is that of null. -/
def readCell (bytes : Bytes) : Option (Cell × Bytes) := do
  let (length, rest) ← readInt4 bytes
  if length < 0 then return (none, rest)
  else if rest.length < length.toNat then none
  else return (some (rest.take length.toNat), rest.drop length.toNat)

/-- So many cells that take all of the bytes. -/
def readCells : Nat → Bytes → Option (List Cell)
  | 0, bytes => if bytes.isEmpty then some [] else none
  | n + 1, bytes => do
    let (cell, rest) ← readCell bytes
    return cell :: (← readCells n rest)

/-- The members behind the numbers of an array: how many dimensions it has, which must be one or
none, whether a member is null, the identifier of the members, and for the dimension its length
and lowest index. -/
def readMembers (bytes : Bytes) : Option (List Cell) := do
  let (dimensions, rest) ← readInt4 bytes
  let (_, rest) ← readInt4 rest
  let (_, rest) ← readInt4 rest
  if dimensions = 0 then readCells 0 rest
  else if dimensions = 1 then
    let (length, rest) ← readInt4 rest
    let (_, rest) ← readInt4 rest
    if length < 0 then none else readCells length.toNat rest
  else none

/-- Arrays of one dimension, empty ones too. -/
def arrayCodec (memberId lowest : Nat) : Codec (List Cell) where
  encode cells :=
    let header := [1, if cells.any Option.isNone then 1 else 0, memberId, cells.length, lowest]
    header.flatMap (bytesOf 4) ++ cells.flatMap cellBytes
  decode := readMembers

/-- The binary format. -/
def Codecs.binary : Codecs where
  bool := boolCodec
  bytea := ⟨id, some⟩
  int2 := int2Codec
  int4 := int4Codec
  int8 := int8Codec
  oid := oidCodec
  float4 := float4Codec
  float8 := float8Codec
  date := dateCodec
  timestamp := timestampCodec
  uuid := ⟨Uuid.bytes, Uuid.ofBytes?⟩
  json := jsonCodec
  jsonb := jsonbCodec
  text := ⟨Text.utf8Bytes, Text.ofUtf8?⟩
  array := arrayCodec

end BoundSql.Postgres
