import BoundSql.Error
import BoundSql.Value.Text

/-!
# Reading values with a type

`Readable` says how a value is read as a member of another type. A value of another kind is a
fault of its column; null can only be read as what may be absent.
-/

namespace BoundSql

open BoundSql.Calendar (Date DateTime)
open BoundSql.Number (Double)

/-- The types that values can be read as. -/
class Readable (α : Type) where
  read : Value → Except ReadFault α

/-- What was found, or the fault of another kind. -/
def foundOr {α : Type} (wanted : String) (v : Value) : Option α → Except ReadFault α
  | some a => .ok a
  | none => .error (.expected wanted v.kind)

instance : Readable Value := ⟨.ok⟩

instance : Readable Int64 := ⟨fun v => foundOr "integer" v v.asInt?⟩

instance : Readable Int32 where
  read v := do
    let n ← foundOr "integer" v v.asInt?
    if n.toInt > Int32.maxValue.toInt then .error .tooLarge
    else if n.toInt < Int32.minValue.toInt then .error .tooSmall
    else .ok (.ofInt n.toInt)

instance : Readable Double := ⟨fun v => foundOr "float" v v.asDouble?⟩

instance : Readable Bool := ⟨fun v => foundOr "bool" v v.asBool?⟩

instance : Readable String := ⟨fun v => foundOr "text" v v.asText?⟩

instance : Readable (List UInt8) where
  read
    | .bytes bytes => .ok bytes
    | v => .error (.expected "bytes" v.kind)

instance : Readable Date := ⟨fun v => foundOr "date" v v.asDate?⟩

instance : Readable DateTime where
  read
    | .dateTime t => .ok t
    | v => .error (.expected "datetime" v.kind)

instance : Readable Uuid where
  read
    | .uuid u => .ok u
    | .text s => match Uuid.ofText? s with
      | some u => .ok u
      | none => .error .malformed
    | v => .error (.expected "uuid" v.kind)

instance : Readable Json := ⟨fun v => .ok v.toJson⟩

instance {α : Type} [Readable α] : Readable (Option α) where
  read
    | .null => .ok none
    | v => (Readable.read v).map some

/-- Reads the value of a column; a fault names the column. -/
def Value.read {α : Type} [Readable α] (v : Value) (column : String) : Except Error α :=
  (Readable.read v).mapError (.decode column)

end BoundSql
