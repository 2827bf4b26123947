/-!
# White space

`isBlank` is the property White_Space of the character database. `trim` takes blanks off both
ends of a text and leaves those between other characters.

## Implementation notes

Texts are cut as lists of characters, so that every cut is a `dropWhile`.
-/

namespace BoundSql.Text

/-- The ranges of White_Space, first and last code point. -/
def blankRanges : List (Nat × Nat) :=
  [(0x09, 0x0D), (0x20, 0x20), (0x85, 0x85), (0xA0, 0xA0), (0x1680, 0x1680), (0x2000, 0x200A),
   (0x2028, 0x2029), (0x202F, 0x202F), (0x205F, 0x205F), (0x3000, 0x3000)]

/-- A blank lies in one of the ranges of White_Space. -/
def isBlank (c : Char) : Bool :=
  blankRanges.any fun range => range.1 ≤ c.toNat && c.toNat ≤ range.2

/-- The text from its first character that is no blank. -/
def dropBlanks (cs : List Char) : List Char :=
  cs.dropWhile isBlank

/-- The characters between the leading and the trailing blanks. -/
def trimChars (cs : List Char) : List Char :=
  (dropBlanks (dropBlanks cs).reverse).reverse

/-- The text between the leading and the trailing blanks. -/
def trim (s : String) : String :=
  .ofList (trimChars s.toList)

/-- Between the blanks of ASCII and the others there is none. -/
theorem isBlank_of_between {c : Char} (hlow : 0x20 < c.toNat) (hhigh : c.toNat < 0x85) :
    isBlank c = false := by
  simp only [isBlank, blankRanges, List.any_cons, List.any_nil, Bool.or_false,
    Bool.or_eq_false_iff, Bool.and_eq_false_iff, decide_eq_false_iff_not]
  omega

/-- Nothing is left of the leading blanks. -/
theorem head_dropBlanks (cs : List Char) (c : Char) (h : (dropBlanks cs).head? = some c) :
    isBlank c = false := by
  induction cs with
  | nil => simp [dropBlanks] at h
  | cons d ds ih =>
    by_cases hd : isBlank d
    · exact ih (by simpa [dropBlanks, List.dropWhile_cons, hd] using h)
    · simp only [dropBlanks, List.dropWhile_cons, hd, Bool.false_eq_true, if_false,
        List.head?_cons, Option.some.injEq] at h
      simpa [← h] using hd

end BoundSql.Text
