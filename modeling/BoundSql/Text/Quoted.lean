import BoundSql.Text.Hidden

/-!
# Quoted text

A text as it is shown to a person: in double quotes, with a backslash before a quote or a
backslash, short names for the common controls, and the number of any other hidden character.
-/

namespace BoundSql.Text

/-- The number of a character in lower-case hexadecimal digits, inside braces. -/
def numberedChars (c : Char) : List Char :=
  ['\\', 'u', '\x7b'] ++ Nat.toDigits 16 c.toNat ++ ['\x7d']

/-- How one character is shown between the quotes. -/
def shownChars (c : Char) : List Char :=
  if c = '"' then ['\\', '"']
  else if c = '\\' then ['\\', '\\']
  else if c = '\n' then ['\\', 'n']
  else if c = '\r' then ['\\', 'r']
  else if c = '\t' then ['\\', 't']
  else if c = '\x00' then ['\\', '0']
  else if isHidden c then numberedChars c
  else [c]

/-- The text in double quotes, every character shown. -/
def quoted (s : String) : String :=
  .ofList (['"'] ++ s.toList.flatMap shownChars ++ ['"'])

end BoundSql.Text
