import BoundSql.Proofs.Quotation
import BoundSql.Proofs.Reader.Written

/-!
# Names that are read back

A name is read part by part: a part in quotes up to its closing quote, any other part up to the next
dot. `identifier_lossless` says that nothing is lost when a path is written. Its parts are read back
as they were, and those that stand without quotes are no reserved words and have no capitals, so
that a database which folds case or looks for keywords reads them no other way.

## Implementation notes

The reader of names shares its reader of quotes with the one of conditions, but does not know what a
path or a keyword is.
-/

namespace BoundSql.Sql

/-! ## Reading names -/

/-- A part of a name, and whether it stands in quotes. -/
structure NamePart where
  chars : List Char
  isQuoted : Bool
deriving DecidableEq, Repr

/-- The part that a text begins with, and what follows it. -/
def namePart? (quote : Char) : List Char → Option (NamePart × List Char)
  | [] => some (⟨[], false⟩, [])
  | c :: rest =>
    if c = quote then
      (unquote? quote rest).map fun (name, behind) => (⟨name, true⟩, behind)
    else some (⟨(c :: rest).takeWhile (· ≠ '.'), false⟩, (c :: rest).dropWhile (· ≠ '.'))

theorem namePart?_length {quote : Char} {cs behind : List Char} {part : NamePart}
    (h : namePart? quote cs = some (part, behind)) : behind.length ≤ cs.length := by
  cases cs with
  | nil =>
      obtain ⟨-, rfl⟩ := Prod.mk.inj (Option.some.inj h)
      exact le_rfl
  | cons c rest =>
      simp only [namePart?] at h
      split at h
      · obtain ⟨⟨name, behind'⟩, hname, heq⟩ := Option.map_eq_some_iff.mp h
        obtain ⟨-, rfl⟩ := Prod.mk.inj heq
        exact (unquote?_length hname).trans (Nat.le_succ _)
      · obtain ⟨-, rfl⟩ := Prod.mk.inj (Option.some.inj h)
        exact (List.dropWhile_suffix _).length_le

/-- The parts of a name with dots between them. -/
def nameParts? (quote : Char) (cs : List Char) : Option (List NamePart) :=
  match _h : namePart? quote cs with
  | none => none
  | some (part, []) => some [part]
  | some (part, c :: rest) =>
    if c = '.' then (nameParts? quote rest).map (part :: ·) else none
termination_by cs.length
decreasing_by
  have := namePart?_length ‹_›
  simp only [List.length_cons] at this
  omega

section
variable {quote : Char} {cs rest : List Char} {part : NamePart}

theorem nameParts?_of_nil (h : namePart? quote cs = some (part, [])) :
    nameParts? quote cs = some [part] := by
  unfold nameParts?
  split <;> simp_all

theorem nameParts?_of_dot (h : namePart? quote cs = some (part, '.' :: rest)) :
    nameParts? quote cs = (nameParts? quote rest).map (part :: ·) := by
  rw [nameParts?]
  split <;> simp_all

end

/-! ## Parts that are written -/

/-- Text in quotes is one part, whatever it is, and what follows it is what follows the text. -/
theorem namePart?_quotedChars (quote : Char) (name : List Char) {behind : List Char}
    (hbehind : ∀ c ∈ behind.head?, c ≠ quote) :
    namePart? quote (quotedChars quote name ++ behind) = some (⟨name, true⟩, behind) := by
  have hunquote := unquote?_quotedChars name hbehind
  have hcons : quotedChars quote name ++ behind =
      quote :: ((quotedChars quote name).tail ++ behind) := rfl
  rw [hcons, namePart?, if_pos rfl, hunquote, Option.map_some]

section
variable {quote : Char} (hquote : IsApart quote)
include hquote

/-- A part of a path is read back up to the dot that ends it. -/
theorem namePart?_partChars {part rest : List Char} (hpart : isColumnName part = true)
    (hrest : ∀ c ∈ rest.head?, c = '.') :
    namePart? quote (partChars quote part ++ rest) = some (⟨part, needsQuotes part⟩, rest) := by
  cases hneeds : needsQuotes part with
  | true =>
      rw [partChars, if_pos hneeds]
      exact namePart?_quotedChars quote part fun c hc => hrest c hc ▸ hquote.dot.symm
  | false =>
      rw [partChars, if_neg (by simp [hneeds])]
      have hfree : quote ∉ part := hquote.not_mem_path (isPath_of_isColumnName hpart)
      have hinside : ∀ c ∈ part, decide (c ≠ '.') = true := by
        intro c hc
        exact decide_eq_true fun hdot => dot_not_mem_of_isColumnName hpart (hdot ▸ hc)
      have htake : (part ++ rest).takeWhile (· ≠ '.') = part := by
        rw [List.takeWhile_append_of_pos hinside]
        cases rest with
        | nil => simp
        | cons c rest => simp [hrest c rfl]
      have hdrop : (part ++ rest).dropWhile (· ≠ '.') = rest := by
        rw [List.dropWhile_append_of_pos hinside]
        cases rest with
        | nil => rfl
        | cons c rest => simp [hrest c rfl]
      cases part with
      | nil => simp [isColumnName, isWord] at hpart
      | cons c cs =>
          have hc : c ≠ quote := fun hc => hfree (hc ▸ List.mem_cons_self)
          rw [List.cons_append] at htake hdrop ⊢
          rw [namePart?, if_neg hc, htake, hdrop]

/-- The parts of a path are read back one after the other. -/
theorem nameParts?_intercalate {parts : List (List Char)} (hne : parts ≠ [])
    (hparts : ∀ part ∈ parts, isColumnName part = true) :
    nameParts? quote (['.'].intercalate (parts.map (partChars quote))) =
      some (parts.map fun part => ⟨part, needsQuotes part⟩) := by
  induction parts with
  | nil => exact absurd rfl hne
  | cons first others ih =>
      have hfirst : isColumnName first = true := hparts first List.mem_cons_self
      cases others with
      | nil =>
          have hread : namePart? quote (partChars quote first ++ []) =
              some (⟨first, needsQuotes first⟩, []) :=
            namePart?_partChars hquote hfirst (by simp)
          rw [List.append_nil] at hread
          rw [List.map_singleton, List.intercalate_singleton]
          exact nameParts?_of_nil hread
      | cons second others =>
          have hothers := ih (by simp) fun part hpart =>
            hparts part (List.mem_cons_of_mem first hpart)
          generalize hrest : ['.'].intercalate ((second :: others).map (partChars quote)) = rest
            at hothers
          have htext : ['.'].intercalate ((first :: second :: others).map (partChars quote)) =
              partChars quote first ++ '.' :: rest := by
            rw [← hrest, List.map_cons, List.map_cons, List.intercalate_cons_cons,
              List.append_assoc, List.singleton_append]
          have hread : namePart? quote (partChars quote first ++ '.' :: rest) =
              some (⟨first, needsQuotes first⟩, '.' :: rest) :=
            namePart?_partChars hquote hfirst (by simp)
          rw [htext, nameParts?_of_dot hread, hothers]
          rfl

/-- What is written of a path is read as its parts, of which just those that need quotes have
them. -/
theorem nameParts?_identifierChars {cs : List Char} {parts : List (List Char)}
    (hpath : pathParts? (Text.trimChars cs) = some parts) :
    nameParts? quote (identifierChars quote cs) =
      some (parts.map fun part => ⟨part, needsQuotes part⟩) := by
  obtain ⟨hparts, rfl⟩ := isPath_of_pathParts? hpath
  rw [← identifierChars_trimChars, identifierChars_of_isPath quote hparts]
  exact nameParts?_intercalate hquote (splitDots_ne_nil _) (isColumnName_of_mem hparts)

/-- Paths that are written alike have the same characters. -/
theorem trimChars_eq_of_identifierChars {cs ds : List Char} {parts parts' : List (List Char)}
    (hcs : pathParts? (Text.trimChars cs) = some parts)
    (hds : pathParts? (Text.trimChars ds) = some parts')
    (h : identifierChars quote cs = identifierChars quote ds) :
    Text.trimChars cs = Text.trimChars ds := by
  have hread := nameParts?_identifierChars hquote hcs
  rw [h, nameParts?_identifierChars hquote hds, Option.some_inj] at hread
  have hparts : parts' = parts := by
    simpa [Function.comp_def] using congrArg (List.map NamePart.chars) hread
  rw [← intercalate_splitDots (Text.trimChars cs), ← intercalate_splitDots (Text.trimChars ds),
    (isPath_of_pathParts? hcs).2, (isPath_of_pathParts? hds).2, hparts]

end

theorem Spelling.nameParts?_identifier (s : Spelling) (hquote : IsApart s.quote) {text : String}
    {parts : List (List Char)} (hpath : pathParts? (Text.trimChars text.toList) = some parts) :
    nameParts? s.quote (s.identifier text).toList =
      some (parts.map fun part => ⟨part, needsQuotes part⟩) := by
  rw [Spelling.identifier, String.toList_ofList]
  exact nameParts?_identifierChars hquote hpath

/-! ## Nothing is lost -/

theorem isApart_of_mem {d : Dialect} (hd : d ∈ [Dialect.postgres, .mysql, .plain]) :
    IsApart d.quote := by
  obtain ⟨hpostgres, hmysql, hplain⟩ := Dialect.isApart_quote
  simp only [List.mem_cons, List.not_mem_nil, or_false] at hd
  obtain rfl | rfl | rfl := hd
  · exact hpostgres
  · exact hmysql
  · exact hplain

/-- The parts of a path are read back from what is written of it, and those without quotes have no
capitals and are no reserved words. So paths that are written alike are the same. Any text in quotes
is read back as one part that ends where the quotes do. What is written of any text is written again
as it is. -/
theorem identifier_lossless {d : Dialect} (hd : d ∈ [Dialect.postgres, .mysql, .plain])
    (tablePrefix : String) :
    let s := (d.withPrefix tablePrefix).toSpelling
    (∀ text parts, pathParts? (Text.trimChars text.toList) = some parts →
      ∃ read, nameParts? s.quote (s.identifier text).toList = some read ∧
        read.map NamePart.chars = parts ∧
        ∀ part ∈ read, part.isQuoted = false →
          (∀ c ∈ part.chars, isCapital c = false) ∧
            String.ofList (part.chars.map Char.toLower) ∉ reservedWords) ∧
    (∀ text text', (pathParts? (Text.trimChars text.toList)).isSome = true →
      (pathParts? (Text.trimChars text'.toList)).isSome = true →
        s.identifier text = s.identifier text' → Text.trim text = Text.trim text') ∧
    (∀ name : String,
      nameParts? s.quote (s.quoteIdentifier name).toList = some [⟨name.toList, true⟩] ∧
        ∀ behind, (∀ c ∈ behind.head?, c ≠ s.quote) →
          namePart? s.quote ((s.quoteIdentifier name).toList ++ behind) =
            some (⟨name.toList, true⟩, behind)) ∧
    ∀ text, s.identifier (s.identifier text) = s.identifier text := by
  intro s
  have hquote : IsApart s.quote := show IsApart d.quote from isApart_of_mem hd
  refine ⟨?_, ?_, ?_, ?_⟩
  · intro text parts hpath
    refine ⟨parts.map fun part => ⟨part, needsQuotes part⟩, ?_, ?_, ?_⟩
    · exact s.nameParts?_identifier hquote hpath
    · simp [Function.comp_def]
    · intro part hpart hfree
      obtain ⟨chars, -, rfl⟩ := List.mem_map.mp hpart
      obtain ⟨hsmall, hreserved⟩ := small_of_needsQuotes hfree
      exact ⟨hsmall, by simpa [isReserved] using hreserved⟩
  · intro text text' hpath hpath' h
    obtain ⟨parts, hparts⟩ := Option.isSome_iff_exists.mp hpath
    obtain ⟨parts', hparts'⟩ := Option.isSome_iff_exists.mp hpath'
    rw [Text.trim, Text.trim,
      trimChars_eq_of_identifierChars hquote hparts hparts' (String.ofList_inj.mp h)]
  · intro name
    rw [Spelling.quoteIdentifier, String.toList_ofList]
    have hread (behind : List Char) (hbehind : ∀ c ∈ behind.head?, c ≠ s.quote) :=
      namePart?_quotedChars s.quote name.toList hbehind
    refine ⟨?_, hread⟩
    have halone := hread [] (by simp)
    rw [List.append_nil] at halone
    exact nameParts?_of_nil halone
  · intro text
    simp only [Spelling.identifier, String.toList_ofList, hquote.identifierChars_identifierChars]

/-- A column whose name has a capital, of a table called like a keyword, in a schema that needs no
quotes. -/
theorem identifier_lossless_app_order_Total :
    Dialect.postgres ∈ [Dialect.postgres, .mysql, .plain] ∧
      pathParts? (Text.trimChars " app.order.Total".toList) =
        some ["app".toList, "order".toList, "Total".toList] ∧
      ∃ read, nameParts? '"' ((Dialect.postgres.withPrefix "wp_").identifier
          " app.order.Total").toList = some read ∧
        read.map NamePart.chars = ["app".toList, "order".toList, "Total".toList] ∧
        ∀ part ∈ read, part.isQuoted = false →
          (∀ c ∈ part.chars, isCapital c = false) ∧
            String.ofList (part.chars.map Char.toLower) ∉ reservedWords :=
  have hd : Dialect.postgres ∈ [Dialect.postgres, .mysql, .plain] := List.mem_cons_self
  have hpath : pathParts? (Text.trimChars " app.order.Total".toList) =
      some ["app".toList, "order".toList, "Total".toList] := by decide +kernel
  ⟨hd, hpath, (identifier_lossless hd "wp_").1 _ _ hpath⟩

end BoundSql.Sql
