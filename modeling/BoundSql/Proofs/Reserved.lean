import BoundSql.Proofs.Reader.Name
import BoundSql.Sql.Compile

/-!
# Names that look like keywords

A part of a path stands without quotes if it is in small letters and no reserved word. The reserved
words and the keywords that selections and joins write are two lists, and the first does not hold
all of the second: `unquoted_keyword_iff` says which names a database takes for a keyword. They are
the words for the kinds of joins and the first word of a lock, in small letters. All other keywords
are quoted, in any case of letters.
-/

namespace BoundSql.Sql

/-- The keywords that selections and joins write around names. -/
def clauseKeywords : List String :=
  ["SELECT", "DISTINCT", "FROM", "AS", "CROSS", "INNER", "LEFT", "RIGHT", "JOIN", "ON", "WHERE",
   "AND", "OR", "NOT", "EXISTS", "IN", "IS", "NULL", "GROUP", "BY", "HAVING", "ORDER", "ASC",
   "DESC", "LIMIT", "OFFSET", "UNION", "ALL", "FOR", "UPDATE"]

example (kind : JoinKind) : ∃ word ∈ clauseKeywords, joinKeyword kind = word ++ " JOIN" := by
  cases kind <;> decide +kernel

/-- The keywords that are not reserved, in small letters. -/
def unreservedKeywords : List String :=
  ["cross", "inner", "left", "right", "for"]

/-- The word in small letters. -/
def lowered (word : String) : String :=
  .ofList (word.toList.map Char.toLower)

/-- Whether a part of a name is a keyword in some case of letters. -/
def NamePart.IsKeyword (part : NamePart) : Prop :=
  ∃ keyword ∈ clauseKeywords, lowered (.ofList part.chars) = lowered keyword

/-! ## The two lists -/

theorem reserved_or_unreserved :
    ∀ keyword ∈ clauseKeywords, lowered keyword ∈ reservedWords ∨
      lowered keyword ∈ unreservedKeywords := by
  decide +kernel

theorem unreservedKeywords_unquoted :
    ∀ word ∈ unreservedKeywords, needsQuotes word.toList = false ∧
      ∃ keyword ∈ clauseKeywords, lowered word = lowered keyword := by
  decide +kernel

/-- A part that needs no quotes is a keyword just if it is one of the words that are missing among
those reserved. -/
theorem not_needsQuotes_isKeyword_iff (chars : List Char) :
    needsQuotes chars = false ∧ NamePart.IsKeyword ⟨chars, needsQuotes chars⟩ ↔
      String.ofList chars ∈ unreservedKeywords := by
  constructor
  · rintro ⟨hfree, keyword, hkeyword, hsame⟩
    obtain ⟨hsmall, hreserved⟩ := small_of_needsQuotes hfree
    rw [isReserved, map_toLower_of_not_isCapital hsmall] at hreserved
    have hword : String.ofList chars = lowered keyword := by
      rw [← hsame, lowered, String.toList_ofList, map_toLower_of_not_isCapital hsmall]
    rw [hword] at hreserved ⊢
    exact (reserved_or_unreserved keyword hkeyword).resolve_left (by simpa using hreserved)
  · intro hword
    obtain ⟨hfree, hkeyword⟩ := unreservedKeywords_unquoted _ hword
    rw [String.toList_ofList] at hfree
    exact ⟨hfree, hkeyword⟩

/-! ## Tables without a prefix -/

/-- Without a prefix a table is written as any path. -/
theorem Spelling.table_none {s : Spelling} (hempty : s.tablePrefix = "") (name : String) :
    s.table name none = s.identifier name := by
  have hsame (cs : List Char) : beforeLastPart [] cs = cs := by
    cases hsplit : splitLastDot? cs with
    | none => simp only [beforeLastPart, hsplit, List.nil_append]
    | some split =>
        simp only [beforeLastPart, hsplit, List.append_assoc, List.singleton_append]
        exact (eq_append_of_splitLastDot? hsplit).1.symm
  rw [Spelling.table, Spelling.named, Spelling.prefixed, hempty, String.toList_empty, hsame,
    Spelling.identifier, String.toList_ofList, identifierChars_trimChars, Spelling.identifier]

/-! ## What is taken for a keyword -/

/-- A part of a path stands without quotes and is a keyword in some case of letters just if it is
one of the five words that are not reserved. So it is with columns and tables, and with the names
that they go by. -/
theorem unquoted_keyword_iff (dialect : DialectName) (tablePrefix : String) {text : String}
    {parts : List (List Char)} (hpath : pathParts? (Text.trimChars text.toList) = some parts) :
    let s := (dialect.dialect.withPrefix tablePrefix).toSpelling
    (∃ read, nameParts? s.quote (s.identifier text).toList = some read ∧
      read.map NamePart.chars = parts ∧
      ∀ part ∈ read, part.isQuoted = false ∧ part.IsKeyword ↔
        String.ofList part.chars ∈ unreservedKeywords) ∧
    s.field text none = s.identifier text ∧
    (tablePrefix = "" → s.table text none = s.identifier text) ∧
    ∀ written, s.named written (some text) = written ++ " AS " ++ s.identifier text := by
  intro s
  have hquote : IsApart s.quote := by
    cases dialect with
    | postgres => exact Dialect.isApart_quote.1
    | mysql => exact Dialect.isApart_quote.2.1
  refine ⟨⟨parts.map fun part => ⟨part, needsQuotes part⟩, ?_, ?_, ?_⟩, rfl, ?_, ?_⟩
  · exact s.nameParts?_identifier hquote hpath
  · simp [Function.comp_def]
  · intro part hpart
    obtain ⟨chars, -, rfl⟩ := List.mem_map.mp hpart
    exact not_needsQuotes_isKeyword_iff chars
  · intro hempty
    exact Spelling.table_none hempty text
  · intro written
    rfl

/-- The first part of the path is a keyword without quotes, the second is quoted. -/
theorem unquoted_keyword_iff_left_order :
    pathParts? (Text.trimChars "left.order".toList) = some ["left".toList, "order".toList] ∧
      ∃ read, nameParts? '\x60' (Dialect.mysql.identifier "left.order").toList = some read ∧
        read.map NamePart.chars = ["left".toList, "order".toList] ∧
        ∀ part ∈ read, part.isQuoted = false ∧ part.IsKeyword ↔
          String.ofList part.chars ∈ unreservedKeywords :=
  have hpath : pathParts? (Text.trimChars "left.order".toList) =
      some ["left".toList, "order".toList] := by decide +kernel
  ⟨hpath, (unquoted_keyword_iff .mysql "" hpath).1⟩

/-- Users that go by a name which begins a join, and the posts that they wrote. -/
def leftJoined : Statement :=
  { source := .table ⟨"users", some "left"⟩
    joins := [⟨.left, .table ⟨"posts", none⟩, some (.columns "left.id" "=" "posts.author")⟩] }

/-- The name of the users is read back without quotes, as the keyword that stands behind it. -/
theorem leftJoined_sql :
    pathParts? (Text.trimChars "left".toList) = some ["left".toList] ∧
      nameParts? '"' (Dialect.postgres.identifier "left").toList =
        some [⟨"left".toList, false⟩] ∧
      NamePart.IsKeyword ⟨"left".toList, false⟩ ∧
      (Dialect.postgres.compile leftJoined).sql =
        "SELECT * FROM users AS left LEFT JOIN posts ON posts.author = left.id" := by
  have hpath : pathParts? (Text.trimChars "left".toList) = some ["left".toList] := by
    decide +kernel
  refine ⟨hpath, ?_, ⟨"LEFT", by decide +kernel, by decide +kernel⟩, by decide +kernel⟩
  exact Dialect.postgres.nameParts?_identifier Dialect.isApart_quote.1 hpath

end BoundSql.Sql
