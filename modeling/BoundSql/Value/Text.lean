import BoundSql.Calendar.Text
import BoundSql.Text.Quoted
import BoundSql.Value.Basic

/-!
# Values as text and as JSON

`display` shows a value to a person. `toJson` is the value as data: bytes become a list of
numbers, dates and identifiers become strings, and a number that is not finite becomes null.
-/

namespace BoundSql

namespace Value

/-- How numbers are shown: with all their places, a whole number without a point. -/
def layout : Number.Layout where
  tie := .up
  plain _ := true
  whole := ""
  nan := "NaN"
  infinity := "inf"
  negativeInfinity := "-inf"

mutual

/-- The text of a value for a person. -/
def display : Value → String
  | null => "NULL"
  | bool b => if b then "true" else "false"
  | int n => Text.intText n.toInt
  | float x => layout.write x
  | text s => Text.quoted s
  | bytes bs => "<" ++ Text.natText bs.length ++ " bytes>"
  | date d => d.text
  | dateTime t => t.text
  | uuid u => u.text
  | json j => j.write
  | list items => "[" ++ String.intercalate ", " (displayItems items) ++ "]"

/-- The texts of values. -/
def displayItems : List Value → List String
  | [] => []
  | item :: items => item.display :: displayItems items

end

mutual

/-- The value as data. -/
def toJson : Value → Json
  | null => .null
  | bool b => .bool b
  | int n => .int n.toInt
  | float x => .ofDouble x
  | text s => .text s
  | bytes bs => .list (bs.map fun b => .int b.toNat)
  | date d => .text d.text
  | dateTime t => .text t.isoText
  | uuid u => .text u.text
  | json j => j
  | list items => .list (toJsonItems items)

/-- Values as data. -/
def toJsonItems : List Value → List Json
  | [] => []
  | item :: items => item.toJson :: toJsonItems items

end

/-- The items of a list are shown one by one. -/
theorem displayItems_eq_map (items : List Value) : displayItems items = items.map display := by
  induction items with
  | nil => rfl
  | cons item items ih => simp [displayItems, ih]

/-- The items of a list become data one by one. -/
theorem toJsonItems_eq_map (items : List Value) : toJsonItems items = items.map toJson := by
  induction items with
  | nil => rfl
  | cons item items ih => simp [toJsonItems, ih]

end Value

end BoundSql
