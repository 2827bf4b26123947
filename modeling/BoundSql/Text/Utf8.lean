/-!
# UTF-8 lengths

How many bytes a text takes, and the longest run of its first characters that fits in a number
of bytes. A character is kept whole or left out.
-/

namespace BoundSql.Text

/-- The last place between characters that has at most so many bytes before it, looked for
backwards. -/
def lastBoundary (s : String) : (limit : Nat) → s.Pos
  | 0 => s.startPos
  | limit + 1 =>
    if h : String.Pos.Raw.IsValid s ⟨limit + 1⟩ then s.pos ⟨limit + 1⟩ h else lastBoundary s limit

/-- The longest beginning of a text that takes at most `limit` bytes. -/
def takeBytes (limit : Nat) (s : String) : String :=
  if s.utf8ByteSize ≤ limit then s else (s.sliceTo (lastBoundary s limit)).copy

/-- A text of at most `limit` bytes as it is; of a longer one the beginning that fits, and
three dots. -/
def shorten (limit : Nat) (s : String) : String :=
  if s.utf8ByteSize ≤ limit then s else takeBytes limit s ++ "..."

/-- The text that bytes encode, none if they are not well formed. -/
def ofUtf8? (bytes : List UInt8) : Option String :=
  String.fromUTF8? ⟨bytes.toArray⟩

/-- The bytes of a text. -/
def utf8Bytes (s : String) : List UInt8 :=
  s.toUTF8.toList

end BoundSql.Text
