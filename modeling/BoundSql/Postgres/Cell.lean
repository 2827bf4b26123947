import BoundSql.Postgres.Codec
import BoundSql.Postgres.Type
import BoundSql.Value.Of
import BoundSql.Value.Read

/-!
# Reading cells

A cell of a result is read by the type of its column. Null is null in every column whose type can
be read; a type that cannot be read is a fault even then.
-/

namespace BoundSql.Postgres

/-- A way to read the bytes of a cell. -/
abbrev CellReader := Bytes → Option Value

/-- The reader that decodes something and takes it as a value. -/
def CellReader.of {α : Type} [ToValue α] (c : Codec α) : CellReader := fun bytes =>
  (c.decode bytes).map toValue

/-- How single values of a type are read. -/
def Scalar.reader? (c : Codecs) : Scalar → Option CellReader
  | bool => some (.of c.bool)
  | int2 => some (.of c.int2)
  | int4 => some (.of c.int4)
  | int8 => some (.of c.int8)
  | oid => some (.of c.oid)
  | float4 => some (.of c.float4)
  | float8 => some (.of c.float8)
  | bytea => some (.of c.bytea)
  | date => some (.of c.date)
  | timestamp => some (.of c.timestamp)
  | timestamptz => some (.of c.timestamp)
  | uuid => some (.of c.uuid)
  | json => some (.of c.json)
  | jsonb => some (.of c.jsonb)
  | text | varchar | bpchar | name | unknown => some (.of c.text)
  | builtIn .. => none
  | custom _ => none

/-- Whether arrays of these members are read. -/
def Scalar.isReadInArrays : Scalar → Bool
  | int4 | int8 | text | varchar => true
  | _ => false

/-- A cell read with a reader. -/
def readNullable (read : CellReader) : Cell → Option Value
  | none => some .null
  | some bytes => read bytes

/-- How values of a type are read. -/
def PgType.reader? (c : Codecs) : PgType → Option CellReader
  | scalar type => type.reader? c
  | array (scalar member) =>
    if member.isReadInArrays then
      (member.reader? c).map fun read bytes => do
        let cells ← (c.array member.objectId 1).decode bytes
        return .list (← cells.mapM (readNullable read))
    else none
  | _ => none

/-- The value of a cell in a column of a type. -/
def readCellAs (c : Codecs) (type : PgType) (cell : Cell) : Except ReadFault Value :=
  match type.reader? c with
  | none => .error (.unsupported type.shownName)
  | some read =>
    match readNullable read cell with
    | some v => .ok v
    | none => .error .malformed

end BoundSql.Postgres
