import BoundSql.Json.Reader

/-!
# Passing over JSON

A value that is not needed must be well formed, no more: its numbers may be of any size, its
escapes need not pair up, and it may nest to any depth.
-/

namespace BoundSql.Json

open BoundSql.Text (isDigit)

/-- What stands behind the closing quote; `fuel` bounds the number of characters. -/
def skipStringRest : (fuel : Nat) → Reader Unit
  | 0, _ => none
  | fuel + 1, cs =>
    match cs with
    | [] => none
    | '"' :: rest => some ((), rest)
    | '\\' :: 'u' :: rest => do
      let (_, rest) ← readUnit rest
      skipStringRest fuel rest
    | '\\' :: e :: rest => do
      let _ ← escapeOf? e
      skipStringRest fuel rest
    | c :: rest => if c.toNat < 0x20 || c = '\\' then none else skipStringRest fuel rest

/-- What stands behind a string. -/
def skipString : Reader Unit := fun cs =>
  match cs with
  | '"' :: rest => skipStringRest (rest.length + 1) rest
  | _ => none

/-- What stands behind one or more digits. -/
def skipDigits : Reader Unit := fun cs =>
  if startsWithDigit cs then some ((), cs.dropWhile isDigit) else none

/-- What stands behind the digits of an exponent and its sign. -/
def skipExponent : Reader Unit := fun cs =>
  match cs with
  | '+' :: rest => skipDigits rest
  | '-' :: rest => skipDigits rest
  | rest => skipDigits rest

/-- What stands behind the exponent, if there is one. -/
def skipOptionalExponent : Reader Unit := fun cs =>
  match cs with
  | 'e' :: rest => skipExponent rest
  | 'E' :: rest => skipExponent rest
  | rest => some ((), rest)

/-- What stands behind the digits before the point; no zero stands before another digit. -/
def skipInteger : Reader Unit := fun cs =>
  match cs with
  | '0' :: rest => if startsWithDigit rest then none else some ((), rest)
  | cs => skipDigits cs

/-- What stands behind a numeral. -/
def skipNumeral : Reader Unit := fun cs => do
  let ((), rest) ← match cs with
    | '-' :: rest => skipInteger rest
    | rest => skipInteger rest
  match rest with
  | '.' :: rest => do
    let ((), rest) ← skipDigits rest
    skipOptionalExponent rest
  | rest => skipOptionalExponent rest

/-- What stands behind a name, a colon and a value. -/
def skipField (value : Reader Unit) : Reader Unit := fun cs => do
  let ((), cs) ← skipString cs
  match dropGaps cs with
  | ':' :: rest => value (dropGaps rest)
  | _ => none

/-- What stands behind a value that nests at most `depth` deep. -/
def skipValueWithin : (depth : Nat) → Reader Unit
  | _, 'n' :: rest => readWord "ull" rest
  | _, 't' :: rest => readWord "rue" rest
  | _, 'f' :: rest => readWord "alse" rest
  | _, '"' :: rest => skipString ('"' :: rest)
  | 0, '[' :: _ => none
  | depth + 1, '[' :: rest =>
    (readSequence (skipValueWithin depth) ']' rest).map fun (_, rest) => ((), rest)
  | 0, '\x7b' :: _ => none
  | depth + 1, '\x7b' :: rest =>
    (readSequence (skipField (skipValueWithin depth)) '\x7d' rest).map fun (_, rest) => ((), rest)
  | _, cs => skipNumeral cs

/-- What stands behind a value; nesting is never deeper than the text is long. -/
def skipValue : Reader Unit := fun cs =>
  skipValueWithin cs.length cs

end BoundSql.Json
