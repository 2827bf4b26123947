import BoundSql.Proofs.Path

/-!
# Quotes in names

A quote that stands in no path tells the quoted parts of a path from the others: what is written of
a path, less its quotes, is the path. A name that is written is written again as it is, and two
names are written alike just if one of them is the other up to the blanks around it, or is what is
written of the other (`identifier_eq_iff`).
-/

namespace BoundSql.Sql

/-! ## Texts less their quotes -/

theorem filter_intercalate {α : Type} {p : α → Bool} {separator : α} (h : p separator = true)
    (ls : List (List α)) :
    ([separator].intercalate ls).filter p = [separator].intercalate (ls.map (List.filter p)) := by
  induction ls with
  | nil => rfl
  | cons l ls ih =>
      cases ls with
      | nil => simp
      | cons k ls =>
          rw [List.intercalate_cons_cons, List.map_cons, List.map_cons,
            List.intercalate_cons_cons, ← List.map_cons, ← ih]
          simp [h]

/-- A quote that stands in no path, and that is no blank. -/
structure IsApart (quote : Char) : Prop where
  word : isWordRest quote = false
  dot : quote ≠ '.'
  star : quote ≠ '*'
  blank : Text.isBlank quote = false

section
variable {quote : Char} {cs : List Char}

/-- A part without quotes is what is written of it less the quotes. -/
theorem filter_partChars (h : quote ∉ cs) : (partChars quote cs).filter (· ≠ quote) = cs := by
  have hne : ∀ c ∈ cs, c ≠ quote := by
    rintro c hc rfl
    exact h hc
  have hself : cs.filter (· ≠ quote) = cs :=
    List.filter_eq_self.mpr fun c hc => decide_eq_true (hne c hc)
  rw [partChars]
  split
  · have hquoted : cs.flatMap (fun c => if c = quote then [quote, quote] else [c]) = cs := by
      refine (List.flatMap_congr ?_).trans (List.flatMap_singleton' cs)
      exact fun c hc => if_neg (hne c hc)
    rw [quotedChars, hquoted]
    simpa using hself
  · exact hself

namespace IsApart

theorem not_mem_path (hquote : IsApart quote) (hpath : isPath (splitDots cs) = true) :
    quote ∉ cs := by
  intro hmem
  obtain rfl | ⟨part, hpart, hmem⟩ := mem_splitDots hmem
  · exact hquote.dot rfl
  · obtain hword | rfl : isWord part = true ∨ part = ['*'] := by
      simpa [isColumnName] using isColumnName_of_mem hpath part hpart
    · exact absurd (isWordRest_of_mem hword hmem) (by simp [hquote.word])
    · exact hquote.star (List.mem_singleton.mp hmem)

/-- A path is what is written of it less the quotes. -/
theorem filter_identifierChars (hquote : IsApart quote) (hpath : isPath (splitDots cs) = true) :
    (identifierChars quote cs).filter (· ≠ quote) = cs := by
  have hparts : ((splitDots cs).map (partChars quote)).map (List.filter (· ≠ quote)) =
      splitDots cs := by
    rw [List.map_map]
    refine (List.map_congr_left ?_).trans (List.map_id _)
    intro part hpart
    exact filter_partChars fun hmem =>
      hquote.not_mem_path hpath (mem_of_mem_splitDots hpart hmem)
  have hdot : decide ('.' ≠ quote) = true := decide_eq_true hquote.dot.symm
  rw [identifierChars_of_isPath quote hpath, filter_intercalate (p := (· ≠ quote)) hdot, hparts,
    intercalate_splitDots]

end IsApart

/-- The quotes of these dialects are such. -/
theorem Dialect.isApart_quote :
    IsApart postgres.quote ∧ IsApart mysql.quote ∧ IsApart plain.quote := by
  refine ⟨?_, ?_, ?_⟩ <;> exact ⟨by decide, by decide, by decide, by decide⟩

/-! ## What is written alike -/

namespace IsApart

/-- What is written of a path has quotes in it and is no path, or it is the path. -/
theorem identifierChars_identifierChars_of_isPath (hquote : IsApart quote)
    (hpath : isPath (splitDots cs) = true) :
    identifierChars quote (identifierChars quote cs) = identifierChars quote cs := by
  have hless := hquote.filter_identifierChars hpath
  by_cases hmem : quote ∈ identifierChars quote cs
  · have hblank : ∀ c ∈ identifierChars quote cs, Text.isBlank c = false := by
      intro c hc
      by_cases hcquote : c = quote
      · exact hcquote ▸ hquote.blank
      · have hkept : c ∈ cs := hless ▸ List.mem_filter.mpr ⟨hc, decide_eq_true hcquote⟩
        exact isBlank_of_mem_path hpath c hkept
    have htrimmed := trimChars_eq_self hblank
    have hexpression : isPath (splitDots (identifierChars quote cs)) = false :=
      Bool.eq_false_iff.mpr fun hpath' => hquote.not_mem_path hpath' hmem
    rw [identifierChars_of_not_isPath quote (htrimmed.symm ▸ hexpression), htrimmed]
  · have hself : identifierChars quote cs = cs := by
      refine (List.filter_eq_self.mpr ?_).symm.trans hless
      intro c hc
      exact decide_eq_true fun hcquote => hmem (hcquote ▸ hc)
    rw [hself, hself]

/-- What is written is written as it is. -/
theorem identifierChars_identifierChars (hquote : IsApart quote) (cs : List Char) :
    identifierChars quote (identifierChars quote cs) = identifierChars quote cs := by
  cases hpath : isPath (splitDots (Text.trimChars cs)) with
  | false =>
      rw [identifierChars_of_not_isPath quote hpath, identifierChars_trimChars,
        identifierChars_of_not_isPath quote hpath]
  | true =>
      rw [← identifierChars_trimChars quote cs]
      exact hquote.identifierChars_identifierChars_of_isPath hpath

theorem identifierChars_eq_iff (hquote : IsApart quote) {ds : List Char} :
    identifierChars quote cs = identifierChars quote ds ↔
      Text.trimChars cs = Text.trimChars ds ∨ identifierChars quote cs = Text.trimChars ds ∨
        Text.trimChars cs = identifierChars quote ds := by
  constructor
  · intro h
    cases hcs : isPath (splitDots (Text.trimChars cs)) with
    | false => exact .inr (.inr (identifierChars_of_not_isPath quote hcs ▸ h))
    | true =>
        cases hds : isPath (splitDots (Text.trimChars ds)) with
        | false => exact .inr (.inl (identifierChars_of_not_isPath quote hds ▸ h))
        | true =>
            left
            rw [← hquote.filter_identifierChars hcs, ← hquote.filter_identifierChars hds,
              identifierChars_trimChars, identifierChars_trimChars, h]
  · rintro (h | h | h)
    · rw [← identifierChars_trimChars quote cs, h, identifierChars_trimChars]
    · rw [← identifierChars_trimChars quote ds, ← h, hquote.identifierChars_identifierChars]
    · rw [← identifierChars_trimChars quote cs, h, hquote.identifierChars_identifierChars]

end IsApart

end

/-- One of two names is the other but for the blanks around them, or is what is written of it. -/
def Spelling.Alike (s : Spelling) (f g : String) : Prop :=
  Text.trim f = Text.trim g ∨ s.identifier f = Text.trim g ∨ Text.trim f = s.identifier g

/-- Two names are written alike just if one of them is the other or stands for it. -/
theorem Spelling.identifier_eq_iff {s : Spelling} (hquote : IsApart s.quote) {f g : String} :
    s.identifier f = s.identifier g ↔ s.Alike f g := by
  simp only [Spelling.Alike, Spelling.identifier, Text.trim, String.ofList_inj]
  exact hquote.identifierChars_eq_iff

end BoundSql.Sql
