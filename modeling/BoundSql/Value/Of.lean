import BoundSql.Value.Basic

/-!
# Values from other types

`ToValue` says how a thing of another type becomes a value. Integers of up to 32 bits and signed
ones of 64 bits keep their number, single precision is widened without loss, and what is absent
is null.
-/

namespace BoundSql

open BoundSql.Calendar (Date DateTime)
open BoundSql.Number (Double Single)

/-- The types whose members can be bound. -/
class ToValue (α : Type) where
  toValue : α → Value

export ToValue (toValue)

instance : ToValue Value := ⟨id⟩
instance : ToValue Int8 := ⟨fun n => .int (.ofInt n.toInt)⟩
instance : ToValue Int16 := ⟨fun n => .int (.ofInt n.toInt)⟩
instance : ToValue Int32 := ⟨fun n => .int (.ofInt n.toInt)⟩
instance : ToValue Int64 := ⟨.int⟩
instance : ToValue UInt8 := ⟨fun n => .int (.ofNat n.toNat)⟩
instance : ToValue UInt16 := ⟨fun n => .int (.ofNat n.toNat)⟩
instance : ToValue UInt32 := ⟨fun n => .int (.ofNat n.toNat)⟩
instance : ToValue Single := ⟨fun x => .float (.ofSingle x)⟩
instance : ToValue Double := ⟨.float⟩
instance : ToValue Bool := ⟨.bool⟩
instance : ToValue String := ⟨.text⟩
instance : ToValue (List UInt8) := ⟨.bytes⟩
instance : ToValue Date := ⟨.date⟩
instance : ToValue DateTime := ⟨.dateTime⟩
instance : ToValue Uuid := ⟨.uuid⟩
instance : ToValue Json := ⟨.json⟩

instance {α : Type} [ToValue α] : ToValue (Option α) where
  toValue
    | some a => toValue a
    | none => .null

/-- The list of the values of things. -/
def Value.ofList {α : Type} [ToValue α] (items : List α) : Value :=
  .list (items.map toValue)

end BoundSql
