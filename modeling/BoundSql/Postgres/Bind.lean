import BoundSql.Postgres.Codec
import BoundSql.Postgres.Type
import BoundSql.Value.Read

/-!
# Binding values

A value is bound to a parameter of a type if the type can hold it as it is. Integers are narrowed
and become floating-point numbers, and texts are read where an identifier or a date is wanted. A
list is bound to arrays, its items to their members by the same rules. Null is bound to every
type. All else is a mismatch.
-/

namespace BoundSql.Postgres

open BoundSql.Calendar (Date)
open BoundSql.Number (Double Single)

/-- Why a value is not bound. -/
inductive BindFault where
  | mismatch (kind : Kind) (type : String)
  | tooLarge
  | tooSmall
  /-- The text is no identifier, or no date. -/
  | malformed
deriving DecidableEq, Repr, Inhabited

/-- The words for a fault. -/
def BindFault.message : BindFault → String
  | mismatch kind type => s!"cannot bind a {kind.name} value to a {type} parameter"
  | tooLarge => ReadFault.tooLarge.message
  | tooSmall => ReadFault.tooSmall.message
  | malformed => ReadFault.malformed.message

/-- A number between two others, or on which side of them it lies. -/
def inRange (low high : Int) (n : Int64) : Except BindFault Int :=
  if n.toInt < low then .error .tooSmall
  else if high < n.toInt then .error .tooLarge
  else .ok n.toInt

/-- The number as a word of two bytes. -/
def toInt2 (n : Int64) : Except BindFault Int16 :=
  (inRange Int16.minValue.toInt Int16.maxValue.toInt n).map .ofInt

/-- The number as a word of four bytes. -/
def toInt4 (n : Int64) : Except BindFault Int32 :=
  (inRange Int32.minValue.toInt Int32.maxValue.toInt n).map .ofInt

/-- What a type that holds texts has in front of them. -/
def Scalar.textMark? : Scalar → Option Bytes
  | text | varchar | bpchar | name | unknown => some []
  | custom word =>
    if word = "citext" then some []
    else if ["ltree", "lquery", "ltxtquery"].contains word then some [1]
    else none
  | _ => none

/-- What was read from a text, or the fault of a text that cannot be read. -/
def wellFormed {α : Type} : Option α → Except BindFault α
  | some a => .ok a
  | none => .error .malformed

/-- The bytes of a value that is neither null nor a list. -/
def bindScalar (c : Codecs) (type : Scalar) (v : Value) : Except BindFault Bytes :=
  match v, type with
  | .bool b, .bool => .ok (c.bool.encode b)
  | .int n, .int2 => (toInt2 n).map c.int2.encode
  | .int n, .int4 => (toInt4 n).map c.int4.encode
  | .int n, .int8 => .ok (c.int8.encode n)
  | .int n, .float4 => .ok (c.float4.encode (.ofInt n.toInt))
  | .int n, .float8 => .ok (c.float8.encode (.ofInt n.toInt))
  | .float x, .float4 => .ok (c.float4.encode x.toSingle)
  | .float x, .float8 => .ok (c.float8.encode x)
  | .text s, .uuid => (wellFormed (Uuid.ofText? s)).map c.uuid.encode
  | .text s, .date => (wellFormed (Date.ofText? s)).map c.date.encode
  | .bytes b, .bytea => .ok (c.bytea.encode b)
  | .date d, .date => .ok (c.date.encode d)
  | .dateTime t, .timestamp => .ok (c.timestamp.encode t)
  | .dateTime t, .timestamptz => .ok (c.timestamp.encode t)
  | .uuid u, .uuid => .ok (c.uuid.encode u)
  | .json j, .json => .ok (c.json.encode j)
  | .json j, .jsonb => .ok (c.jsonb.encode j)
  | .text s, type =>
    match type.textMark? with
    | some mark => .ok (mark ++ c.text.encode s)
    | none => .error (.mismatch .text type.shownName)
  | v, type => .error (.mismatch v.kind type.shownName)

mutual

/-- The cell of a value for a parameter of a type. -/
def bind (c : Codecs) (type : PgType) : Value → Except BindFault Cell
  | .null => .ok none
  | .list items =>
    match type with
    | .array member =>
      (bindAll c member items).map fun cells => some ((c.array member.objectId 1).encode cells)
    | .vector member =>
      (bindAll c (.scalar member) items).map fun cells =>
        some ((c.array member.objectId 0).encode cells)
    | .scalar type => .error (.mismatch .list type.shownName)
  | v =>
    match type with
    | .scalar type => (bindScalar c type v).map some
    | type => .error (.mismatch v.kind type.shownName)
termination_by structural v => v

/-- The cells of values for members of a type, up to the first that is not bound. -/
def bindAll (c : Codecs) (member : PgType) : List Value → Except BindFault (List Cell)
  | [] => .ok []
  | v :: vs => do
    let cell ← bind c member v
    return cell :: (← bindAll c member vs)
termination_by structural vs => vs

end

end BoundSql.Postgres
