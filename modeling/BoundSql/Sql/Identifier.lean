import BoundSql.Text.Blank

/-!
# Identifiers

Text is a path if it is made of words with dots between them; the last part may be a star. A word
begins with a letter or an underscore and goes on with letters, digits, underscores and dollar
signs, all of ASCII. A part of a path is quoted only if it would not survive on its own: if it has
a capital letter or is a reserved word in any case of letters. Text that is no path is an
expression and stays as it is.
-/

namespace BoundSql.Sql

/-- The words that must be quoted to serve as names, in lower case. -/
def reservedWords : List String :=
  ["all", "and", "as", "asc", "between", "by", "case", "check", "column", "constraint",
   "create", "default", "delete", "desc", "distinct", "drop", "else", "end", "exists",
   "from", "group", "having", "in", "index", "insert", "into", "is", "join", "key", "like",
   "limit", "not", "null", "offset", "on", "or", "order", "primary", "references", "select",
   "set", "table", "then", "to", "union", "unique", "update", "user", "using", "values",
   "when", "where"]

/-- Whether a word may begin with the character. -/
def isWordStart (c : Char) : Bool :=
  c = '_' || c.isAlpha

/-- Whether a word may go on with the character. -/
def isWordRest (c : Char) : Bool :=
  c = '_' || c = '$' || c.isAlphanum

/-- Whether a part of a path is a plain word. -/
def isWord : List Char → Bool
  | [] => false
  | c :: cs => isWordStart c && cs.all isWordRest

/-- The pieces of a text between its dots; one more than there are dots. -/
def splitDots : List Char → List (List Char)
  | [] => [[]]
  | c :: cs =>
    if c = '.' then [] :: splitDots cs
    else match splitDots cs with
      | part :: parts => (c :: part) :: parts
      | [] => [[c]]

/-- Whether pieces make a path: words, the last of them possibly a star. -/
def isPath : List (List Char) → Bool
  | [] => false
  | [last] => isWord last || last = ['*']
  | part :: parts => isWord part && isPath parts

/-- The parts of a path, none for an expression. -/
def pathParts? (cs : List Char) : Option (List (List Char)) :=
  if isPath (splitDots cs) then some (splitDots cs) else none

/-- Whether a letter is a capital of ASCII. -/
def isCapital (c : Char) : Bool :=
  'A' ≤ c && c ≤ 'Z'

/-- Whether a part is a reserved word in some case of letters. -/
def isReserved (part : List Char) : Bool :=
  reservedWords.contains (.ofList (part.map Char.toLower))

/-- Whether a part needs quotes; a star does not. -/
def needsQuotes (part : List Char) : Bool :=
  part ≠ ['*'] && (part.any isCapital || isReserved part)

/-- Text between quotes, with every quote inside written twice. -/
def quotedChars (quote : Char) (cs : List Char) : List Char :=
  quote :: cs.flatMap (fun c => if c = quote then [quote, quote] else [c]) ++ [quote]

/-- A part of a path, quoted if it needs to be. -/
def partChars (quote : Char) (part : List Char) : List Char :=
  if needsQuotes part then quotedChars quote part else part

/-- The parts of a path, each quoted if it needs to be, with dots between them. Expressions stay
as they are, without the blanks around them. -/
def identifierChars (quote : Char) (cs : List Char) : List Char :=
  let trimmed := Text.trimChars cs
  match pathParts? trimmed with
  | some parts => ['.'].intercalate (parts.map (partChars quote))
  | none => trimmed

/-- The text before the last dot and the text behind it. -/
def splitLastDot? : List Char → Option (List Char × List Char)
  | [] => none
  | c :: cs =>
    match splitLastDot? cs with
    | some (before, behind) => some (c :: before, behind)
    | none => if c = '.' then some ([], cs) else none

/-- The text behind the last dot, or the whole text if it has none. -/
def lastPart (cs : List Char) : List Char :=
  match splitLastDot? cs with
  | some (_, behind) => behind
  | none => cs

/-- The text with more text in front of its last part. -/
def beforeLastPart (added cs : List Char) : List Char :=
  match splitLastDot? cs with
  | some (before, behind) => before ++ '.' :: added ++ behind
  | none => added ++ cs

/-- There is at least one piece. -/
theorem splitDots_ne_nil (cs : List Char) : splitDots cs ≠ [] := by
  cases cs with
  | nil => simp [splitDots]
  | cons c cs =>
    simp only [splitDots]
    split
    · simp
    · split <;> simp

/-- Dots put back between the pieces give the text again. -/
theorem intercalate_splitDots (cs : List Char) : ['.'].intercalate (splitDots cs) = cs := by
  induction cs with
  | nil => rfl
  | cons c cs ih =>
    simp only [splitDots]
    split
    · rename_i hc
      cases hs : splitDots cs with
      | nil => exact absurd hs (splitDots_ne_nil cs)
      | cons part parts =>
        rw [hs] at ih
        simpa [List.intercalate, List.intersperse, hc] using ih
    · cases hs : splitDots cs with
      | nil => exact absurd hs (splitDots_ne_nil cs)
      | cons part parts =>
        rw [hs] at ih
        cases parts with
        | nil => simpa [List.intercalate, List.intersperse] using ih
        | cons next parts => simpa [List.intercalate, List.intersperse] using ih

end BoundSql.Sql
