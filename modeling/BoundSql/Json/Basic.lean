import BoundSql.Number.Layout
import BoundSql.Text.Hex

/-!
# JSON values and their text

The text of a value has no blanks. A string escapes the quote, the backslash and the controls
below the space, the common ones by letter. A floating-point number always has a point or an
exponent, and `null` stands for what is no finite number.
-/

namespace BoundSql

/-- A JSON value. The fields of an object keep the order they are given in. -/
inductive Json where
  | null
  | bool (b : Bool)
  | int (n : Int)
  | float (x : Number.Double)
  | text (s : String)
  | list (items : List Json)
  | object (fields : List (String × Json))
deriving Inhabited

namespace Json

/-- How numbers are written: all places from a hundred-thousandth to below ten to the sixteenth,
and of two shortest decimals that are equally near the even one. -/
def layout : Number.Layout where
  tie := .even
  plain exponent := -5 ≤ exponent && exponent < 16
  whole := ".0"
  nan := "null"
  infinity := "null"
  negativeInfinity := "null"

/-- One character of a string. -/
def escapedChars (c : Char) : List Char :=
  if c = '"' then ['\\', '"']
  else if c = '\\' then ['\\', '\\']
  else if c = '\x08' then ['\\', 'b']
  else if c = '\x0c' then ['\\', 'f']
  else if c = '\n' then ['\\', 'n']
  else if c = '\r' then ['\\', 'r']
  else if c = '\t' then ['\\', 't']
  else if c.toNat < 0x20 then ['\\', 'u'] ++ Text.hexChars 4 c.toNat
  else [c]

/-- A string between its quotes. -/
def stringText (s : String) : String :=
  .ofList (['"'] ++ s.toList.flatMap escapedChars ++ ['"'])

/-- Texts between an opening and a closing one, with commas. -/
def enclosed (opening : String) (parts : List String) (closing : String) : String :=
  opening ++ String.intercalate "," parts ++ closing

/-- A field of an object. -/
def fieldText (name value : String) : String :=
  stringText name ++ ":" ++ value

mutual

/-- The text of a value. -/
def write : Json → String
  | .null => "null"
  | .bool b => if b then "true" else "false"
  | .int n => Text.intText n
  | .float x => layout.write x
  | .text s => stringText s
  | .list items => enclosed "[" (writeItems items) "]"
  | .object fields => enclosed "\x7b" (writeFields fields) "\x7d"

/-- The texts of values. -/
def writeItems : List Json → List String
  | [] => []
  | item :: items => item.write :: writeItems items

/-- The texts of fields. -/
def writeFields : List (String × Json) → List String
  | [] => []
  | (name, value) :: fields => fieldText name value.write :: writeFields fields

end

/-- Puts a field at its place in a sorted object, instead of one of the same name. -/
def insertField (name : String) (value : Json) : List (String × Json) → List (String × Json)
  | [] => [(name, value)]
  | (other, old) :: fields =>
    if name < other then (name, value) :: (other, old) :: fields
    else if name = other then (name, value) :: fields
    else (other, old) :: insertField name value fields

/-- The object of fields given one after another: sorted by name, the last of a name wins. -/
def ofFields (fields : List (String × Json)) : Json :=
  .object (fields.foldl (fun sorted field => insertField field.1 field.2 sorted) [])

/-- A number if it is finite, else `null`. -/
def ofDouble (x : Number.Double) : Json :=
  if x.isFinite then .float x else .null

end Json

end BoundSql
