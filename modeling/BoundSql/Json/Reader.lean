import BoundSql.Json.Basic
import BoundSql.Json.Numeral

/-!
# Reading JSON

Blanks are the space, the tab, the line feed and the carriage return. Lists and objects nest at
most 127 deep. Fields are read in order with their repetitions; `read?` sorts them and keeps the
last of each name.

## Implementation notes

A reader takes a value from the front of a text and returns the rest. Depth decreases from a list
to its items; the loop over items carries the length of the text as a bound on their number.
-/

namespace BoundSql.Json

/-- A value and the text behind it. -/
abbrev Reader (α : Type) := List Char → Option (α × List Char)

/-- The deepest nesting of lists and objects. -/
def deepest : Nat := 127

/-- Whether a character may stand between the parts of a text. -/
def isGap (c : Char) : Bool :=
  c = ' ' || c = '\t' || c = '\n' || c = '\r'

/-- The text from its first character that is no gap. -/
def dropGaps (cs : List Char) : List Char :=
  cs.dropWhile isGap

/-- Four hexadecimal digits. -/
def readUnit : Reader Nat := fun cs =>
  if cs.length < 4 then none
  else (Text.hexDigitsValue? (cs.take 4)).map fun n => (n, cs.drop 4)

/-- The character that a letter behind a backslash stands for. -/
def escapeOf? (c : Char) : Option Char :=
  match c with
  | '"' => some '"'
  | '\\' => some '\\'
  | '/' => some '/'
  | 'b' => some '\x08'
  | 'f' => some '\x0c'
  | 'n' => some '\n'
  | 'r' => some '\r'
  | 't' => some '\t'
  | _ => none

/-- The character that one unit, or a pair of units, stands for. -/
def readUnits (cs : List Char) : Option (Char × List Char) := do
  let (unit, cs) ← readUnit cs
  if 0xDC00 ≤ unit && unit ≤ 0xDFFF then none
  else if 0xD800 ≤ unit && unit ≤ 0xDBFF then
    match cs with
    | '\\' :: 'u' :: cs =>
      let (low, cs) ← readUnit cs
      if 0xDC00 ≤ low && low ≤ 0xDFFF then
        return (.ofNat (0x10000 + (unit - 0xD800) * 0x400 + (low - 0xDC00)), cs)
      else none
    | _ => none
  else return (.ofNat unit, cs)

/-- The characters up to the closing quote; `fuel` bounds their number. -/
def readStringRest : (fuel : Nat) → Reader (List Char)
  | 0, _ => none
  | fuel + 1, cs =>
    match cs with
    | [] => none
    | '"' :: rest => some ([], rest)
    | '\\' :: 'u' :: rest => do
      let (c, rest) ← readUnits rest
      let (tail, rest) ← readStringRest fuel rest
      return (c :: tail, rest)
    | '\\' :: e :: rest => do
      let c ← escapeOf? e
      let (tail, rest) ← readStringRest fuel rest
      return (c :: tail, rest)
    | c :: rest => do
      if c.toNat < 0x20 || c = '\\' then none
      else
        let (tail, rest) ← readStringRest fuel rest
        return (c :: tail, rest)

/-- A string with its quotes. -/
def readString : Reader String := fun cs =>
  match cs with
  | '"' :: rest => (readStringRest (rest.length + 1) rest).map fun (s, rest) => (.ofList s, rest)
  | _ => none

/-- This very text. -/
def readWord (word : String) : Reader Unit := fun cs =>
  if word.toList.isPrefixOf cs then some ((), cs.drop word.length) else none

/-- Items with commas between them up to the closing mark; the list has at least one. -/
def readItems {α : Type} (item : Reader α) (closing : Char) : (fuel : Nat) → Reader (List α)
  | 0, _ => none
  | fuel + 1, cs => do
    let (a, cs) ← item (dropGaps cs)
    match dropGaps cs with
    | c :: rest =>
      if c = closing then return ([a], rest)
      else if c = ',' then
        let (as, rest) ← readItems item closing fuel rest
        return (a :: as, rest)
      else none
    | [] => none

/-- Any number of items up to the closing mark. -/
def readSequence {α : Type} (item : Reader α) (closing : Char) : Reader (List α) := fun cs =>
  match dropGaps cs with
  | c :: rest => if c = closing then some ([], rest) else readItems item closing cs.length cs
  | [] => none

/-- A name, a colon and a value. -/
def readField {α : Type} (value : Reader α) : Reader (String × α) := fun cs => do
  let (name, cs) ← readString cs
  match dropGaps cs with
  | ':' :: rest =>
    let (a, rest) ← value (dropGaps rest)
    return ((name, a), rest)
  | _ => none

/-- A value in which lists and objects nest at most `depth` deep. -/
def readValue : (depth : Nat) → Reader Json
  | _, 'n' :: rest => (readWord "ull" rest).map fun ((), rest) => (.null, rest)
  | _, 't' :: rest => (readWord "rue" rest).map fun ((), rest) => (.bool true, rest)
  | _, 'f' :: rest => (readWord "alse" rest).map fun ((), rest) => (.bool false, rest)
  | _, '"' :: rest => (readString ('"' :: rest)).map fun (s, rest) => (.text s, rest)
  | 0, '[' :: _ => none
  | depth + 1, '[' :: rest =>
    (readSequence (readValue depth) ']' rest).map fun (items, rest) => (.list items, rest)
  | 0, '\x7b' :: _ => none
  | depth + 1, '\x7b' :: rest =>
    (readSequence (readField (readValue depth)) '\x7d' rest).map
      fun (fields, rest) => (ofFields fields, rest)
  | _, cs => (readNumeral cs).map fun (numeral, rest) =>
    match numeral with
    | .int n => (.int n, rest)
    | .float x => (.float x, rest)

/-- The value that a whole text writes, with gaps around it. -/
def read? (s : String) : Option Json :=
  match readValue deepest (dropGaps s.toList) with
  | some (value, rest) => if (dropGaps rest).isEmpty then some value else none
  | none => none

end BoundSql.Json
