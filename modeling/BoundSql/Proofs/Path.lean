import BoundSql.Sql.Scope
import BoundSql.Sql.Dialect
import Mathlib.Data.List.DropRight
import Mathlib.Data.List.TakeWhile

/-!
# Paths of names

Tables are named by paths of words, and their columns by such a path, a dot and one more word or a
star. The lemmas take paths apart at dots and put them together again. A text is written part by
part, so a path is written as its qualifier, a dot and its last part.
-/

namespace BoundSql.Sql

/-! ## Words -/

theorem isWordRest_of_mem {word : List Char} {c : Char} (hword : isWord word = true)
    (hc : c ∈ word) : isWordRest c = true := by
  cases word with
  | nil => cases hc
  | cons d ds =>
      obtain ⟨hd, hds⟩ : isWordStart d = true ∧ ds.all isWordRest = true := by
        simpa [isWord] using hword
      obtain rfl | hmem := List.mem_cons.mp hc
      · simp only [isWordStart, isWordRest, Char.isAlphanum, Bool.or_eq_true] at hd ⊢
        obtain hd | hd := hd
        · exact .inl (.inl hd)
        · exact .inr (.inl hd)
      · exact List.all_eq_true.mp hds c hmem

/-- A word with a word in front of it is a word. -/
theorem isWord_append {word word' : List Char} (hword : isWord word = true)
    (hword' : isWord word' = true) : isWord (word ++ word') = true := by
  have hrest : ∀ c ∈ word', isWordRest c = true := fun c => isWordRest_of_mem hword'
  cases word with
  | nil => exact hword'
  | cons c cs =>
      obtain ⟨hc, hcs⟩ : isWordStart c = true ∧ cs.all isWordRest = true := by
        simpa [isWord] using hword
      simp only [List.cons_append, isWord, List.all_append, hc, hcs, Bool.true_and]
      exact List.all_eq_true.mpr hrest

theorem dot_not_mem_of_isWord {word : List Char} (hword : isWord word = true) : '.' ∉ word :=
  fun hdot => absurd (isWordRest_of_mem hword hdot) (by decide)

/-- The characters of words lie between those blanks that are of ASCII and those that are not. -/
theorem isBlank_of_isWordRest {c : Char} (hc : isWordRest c = true) : Text.isBlank c = false := by
  have hrange : 0x24 ≤ c.toNat ∧ c.toNat ≤ 0x7A := by
    simp only [isWordRest, Bool.or_eq_true, decide_eq_true_eq] at hc
    obtain (rfl | rfl) | hc := hc
    · decide
    · decide
    · delta Char.isAlphanum Char.isAlpha Char.isUpper Char.isLower Char.isDigit at hc
      simp only [Bool.or_eq_true, Bool.and_eq_true, decide_eq_true_eq, ge_iff_le,
        UInt32.le_iff_toNat_le] at hc
      change ((65 ≤ c.toNat ∧ c.toNat ≤ 90) ∨ (97 ≤ c.toNat ∧ c.toNat ≤ 122)) ∨
        (48 ≤ c.toNat ∧ c.toNat ≤ 57) at hc
      omega
  exact Text.isBlank_of_between (by omega) (by omega)

/-! ## Texts without blanks -/

/-- A text without blanks has none at its ends. -/
theorem trimChars_eq_self {cs : List Char} (h : ∀ c ∈ cs, Text.isBlank c = false) :
    Text.trimChars cs = cs := by
  have hdrop (ds : List Char) (hds : ∀ c ∈ ds, Text.isBlank c = false) :
      Text.dropBlanks ds = ds := by
    apply List.dropWhile_eq_self_iff.mpr
    intro hlength
    simp [hds _ (List.getElem_mem hlength)]
  rw [Text.trimChars, hdrop cs h, hdrop cs.reverse (by simpa using h), List.reverse_reverse]

theorem mem_of_mem_trimChars {cs : List Char} {c : Char} (h : c ∈ Text.trimChars cs) : c ∈ cs := by
  have hdrop (ds : List Char) : Text.dropBlanks ds ⊆ ds := List.dropWhile_sublist _ |>.subset
  exact hdrop _ (List.mem_reverse.mp (hdrop _ (List.mem_reverse.mp h)))

/-- Only blanks are lost. -/
theorem mem_trimChars_iff {cs : List Char} {c : Char} (hc : Text.isBlank c = false) :
    c ∈ Text.trimChars cs ↔ c ∈ cs := by
  have hdrop (ds : List Char) : c ∈ Text.dropBlanks ds ↔ c ∈ ds := by
    have hnone : c ∉ ds.takeWhile Text.isBlank := by
      intro hmem
      exact Bool.false_ne_true (hc.symm.trans (List.mem_takeWhile_imp hmem))
    conv => rhs; rw [← List.takeWhile_append_dropWhile (p := Text.isBlank) (l := ds)]
    rw [List.mem_append, or_iff_right hnone, Text.dropBlanks]
  rw [Text.trimChars, List.mem_reverse, hdrop, List.mem_reverse, hdrop]

theorem trimChars_trimChars (cs : List Char) :
    Text.trimChars (Text.trimChars cs) = Text.trimChars cs := by
  have hfront : Text.dropBlanks (Text.trimChars cs) = Text.trimChars cs := by
    apply List.dropWhile_eq_self_iff.mpr
    intro hlength hblank
    obtain ⟨dropped, hdropped⟩ : Text.trimChars cs <+: Text.dropBlanks cs :=
      List.rdropWhile_prefix Text.isBlank (l := Text.dropBlanks cs)
    have hhead : (Text.dropBlanks cs).head? = some (Text.trimChars cs)[0] := by
      rw [← hdropped, List.head?_append, List.head?_eq_getElem?, List.getElem?_eq_getElem hlength]
      rfl
    rw [Text.head_dropBlanks cs _ hhead] at hblank
    cases hblank
  rw [Text.trimChars, hfront]
  exact List.rdropWhile_idempotent Text.isBlank (Text.dropBlanks cs)

/-! ## Texts between dots -/

theorem splitDots_of_not_mem {cs : List Char} (h : '.' ∉ cs) : splitDots cs = [cs] := by
  induction cs with
  | nil => rfl
  | cons c cs ih =>
      simp only [List.mem_cons, not_or] at h
      rw [splitDots, if_neg (Ne.symm h.1), ih h.2]

theorem splitDots_append (as bs : List Char) :
    splitDots (as ++ '.' :: bs) = splitDots as ++ splitDots bs := by
  induction as with
  | nil => simp [splitDots]
  | cons a as ih =>
      rw [List.cons_append, splitDots, splitDots, ih]
      split
      · rfl
      · obtain ⟨part, parts, hparts⟩ := List.exists_cons_of_ne_nil (splitDots_ne_nil as)
        rw [hparts]
        rfl

theorem splitLastDot?_append (as : List Char) {bs : List Char} (h : '.' ∉ bs) :
    splitLastDot? (as ++ '.' :: bs) = some (as, bs) := by
  have hbs : splitLastDot? bs = none := by
    induction bs with
    | nil => rfl
    | cons b bs ih =>
        simp only [List.mem_cons, not_or] at h
        rw [splitLastDot?, ih h.2]
        exact if_neg (Ne.symm h.1)
  induction as with
  | nil => simp [splitLastDot?, hbs]
  | cons a as ih => simp [splitLastDot?, ih]

theorem splitLastDot?_eq_none_iff {cs : List Char} : splitLastDot? cs = none ↔ '.' ∉ cs := by
  induction cs with
  | nil => simp [splitLastDot?]
  | cons c cs ih =>
      cases h : splitLastDot? cs with
      | none =>
          have hcs : '.' ∉ cs := ih.mp h
          simp [splitLastDot?, h, hcs, eq_comm]
      | some split =>
          have hcs : '.' ∈ cs := by
            rw [h] at ih
            simpa using ih
          simp [splitLastDot?, h, hcs]

/-- What stands around the last dot. -/
theorem eq_append_of_splitLastDot? {cs as bs : List Char}
    (h : splitLastDot? cs = some (as, bs)) : cs = as ++ '.' :: bs ∧ '.' ∉ bs := by
  induction cs generalizing as with
  | nil => cases h
  | cons c cs ih =>
      cases hcs : splitLastDot? cs with
      | none =>
          have hdot := splitLastDot?_eq_none_iff.mp hcs
          simp only [splitLastDot?, hcs, Option.ite_none_right_eq_some, Option.some.injEq,
            Prod.mk.injEq] at h
          obtain ⟨rfl, rfl, rfl⟩ := h
          exact ⟨rfl, hdot⟩
      | some split =>
          obtain ⟨before, behind⟩ := split
          simp only [splitLastDot?, hcs, Option.some.injEq, Prod.mk.injEq] at h
          obtain ⟨rfl, rfl⟩ := h
          obtain ⟨htext, hdot⟩ := ih hcs
          exact ⟨congrArg (c :: ·) htext, hdot⟩

/-- A character of a text is a dot or stands in one of its pieces. -/
theorem mem_splitDots {cs : List Char} {c : Char} (hc : c ∈ cs) :
    c = '.' ∨ ∃ part ∈ splitDots cs, c ∈ part := by
  induction cs with
  | nil => cases hc
  | cons d ds ih =>
      by_cases hd : d = '.'
      · obtain rfl | hc := List.mem_cons.mp hc
        · exact .inl hd
        · simpa [splitDots, hd] using ih hc
      · obtain ⟨first, others, hparts⟩ := List.exists_cons_of_ne_nil (splitDots_ne_nil ds)
        simp only [splitDots, if_neg hd, hparts, List.mem_cons, exists_eq_or_imp] at ih ⊢
        obtain rfl | hc := List.mem_cons.mp hc
        · exact .inr (.inl (.inl rfl))
        · obtain hdot | hfirst | hothers := ih hc
          · exact .inl hdot
          · exact .inr (.inl (.inr hfirst))
          · exact .inr (.inr hothers)

theorem mem_of_mem_splitDots {cs part : List Char} {c : Char} (hpart : part ∈ splitDots cs)
    (hc : c ∈ part) : c ∈ cs := by
  induction cs generalizing part with
  | nil =>
      obtain rfl := List.mem_singleton.mp hpart
      cases hc
  | cons d ds ih =>
      obtain ⟨first, others, hparts⟩ := List.exists_cons_of_ne_nil (splitDots_ne_nil ds)
      by_cases hd : d = '.'
      · rw [splitDots, if_pos hd] at hpart
        obtain rfl | hpart := List.mem_cons.mp hpart
        · cases hc
        · exact List.mem_cons_of_mem d (ih hpart hc)
      · simp only [splitDots, if_neg hd, hparts] at hpart
        obtain rfl | hpart := List.mem_cons.mp hpart
        · obtain rfl | hc := List.mem_cons.mp hc
          · exact List.mem_cons_self
          · exact List.mem_cons_of_mem d (ih (by simp [hparts]) hc)
        · exact List.mem_cons_of_mem d (ih (by simp [hparts, hpart]) hc)

/-! ## Paths -/

theorem isPath_of_all_isWord {parts : List (List Char)} (hne : parts ≠ [])
    (hparts : parts.all isWord = true) : isPath parts = true := by
  induction parts with
  | nil => exact absurd rfl hne
  | cons first others ih =>
      simp only [List.all_cons, Bool.and_eq_true] at hparts
      cases others with
      | nil => simp [isPath, hparts.1]
      | cons second others => simp [isPath, hparts.1, ih (by simp) hparts.2]

/-- Whether a text is a path without a star, as the names of tables are. -/
def isTablePath (cs : List Char) : Bool :=
  (splitDots cs).all isWord

/-- Whether a text names a column of a table, or all of them. -/
def isColumnName (cs : List Char) : Bool :=
  isWord cs || cs = ['*']

theorem isPath_append_singleton (parts : List (List Char)) (last : List Char) :
    isPath (parts ++ [last]) = (parts.all isWord && isColumnName last) := by
  induction parts with
  | nil => simp [isPath, isColumnName]
  | cons first others ih =>
      cases others with
      | nil => simp_all [isPath, isColumnName]
      | cons second others => simp_all [isPath, Bool.and_assoc]

theorem dot_not_mem_of_isColumnName {cs : List Char} (h : isColumnName cs = true) : '.' ∉ cs := by
  obtain hword | rfl : isWord cs = true ∨ cs = ['*'] := by simpa [isColumnName] using h
  · exact dot_not_mem_of_isWord hword
  · decide

theorem isTablePath_append (table : List Char) {last : List Char} (hlast : '.' ∉ last) :
    isTablePath (table ++ '.' :: last) = (isTablePath table && isWord last) := by
  simp [isTablePath, splitDots_append, splitDots_of_not_mem hlast]

/-- A column of a table is a path. -/
theorem isPath_splitDots_append (table : List Char) {column : List Char} (hcolumn : '.' ∉ column) :
    isPath (splitDots (table ++ '.' :: column)) = (isTablePath table && isColumnName column) := by
  rw [splitDots_append, splitDots_of_not_mem hcolumn, isPath_append_singleton, isTablePath]

theorem isPath_of_isTablePath {cs : List Char} (h : isTablePath cs = true) :
    isPath (splitDots cs) = true :=
  isPath_of_all_isWord (splitDots_ne_nil cs) h

theorem isPath_of_isColumnName {cs : List Char} (h : isColumnName cs = true) :
    isPath (splitDots cs) = true := by
  rw [splitDots_of_not_mem (dot_not_mem_of_isColumnName h)]
  exact h

theorem isColumnName_of_mem {parts : List (List Char)} (hparts : isPath parts = true) :
    ∀ part ∈ parts, isColumnName part = true := by
  induction parts with
  | nil => simp
  | cons first others ih =>
      cases others with
      | nil => simpa [isColumnName, isPath] using hparts
      | cons second others =>
          obtain ⟨hfirst, hothers⟩ : isWord first = true ∧ isPath (second :: others) = true := by
            simpa [isPath] using hparts
          intro part hpart
          obtain rfl | hpart := List.mem_cons.mp hpart
          · simp [isColumnName, hfirst]
          · exact ih hothers part hpart

theorem isPath_of_pathParts? {cs : List Char} {parts : List (List Char)}
    (h : pathParts? cs = some parts) : isPath (splitDots cs) = true ∧ splitDots cs = parts := by
  obtain ⟨hpath, hparts⟩ := Option.ite_none_right_eq_some.mp h
  exact ⟨hpath, Option.some.inj hparts⟩

/-- No character of a path is a blank. -/
theorem isBlank_of_mem_path {cs : List Char} (hpath : isPath (splitDots cs) = true) :
    ∀ c ∈ cs, Text.isBlank c = false := by
  intro c hc
  obtain rfl | ⟨part, hpart, hc⟩ := mem_splitDots hc
  · decide
  · obtain hword | rfl : isWord part = true ∨ part = ['*'] := by
      simpa [isColumnName] using isColumnName_of_mem hpath part hpart
    · exact isBlank_of_isWordRest (isWordRest_of_mem hword hc)
    · obtain rfl := List.mem_singleton.mp hc
      decide

/-- Text in front of the last part of a table's name goes into this part. -/
theorem isTablePath_beforeLastPart {added table : List Char} (hadded : isWord added = true)
    (htable : isTablePath table = true) : isTablePath (beforeLastPart added table) = true := by
  cases hsplit : splitLastDot? table with
  | none =>
      have hdot := splitLastDot?_eq_none_iff.mp hsplit
      have hword : isWord table = true := by
        simpa [isTablePath, splitDots_of_not_mem hdot] using htable
      have hlast := isWord_append hadded hword
      rw [beforeLastPart, hsplit, isTablePath, splitDots_of_not_mem (dot_not_mem_of_isWord hlast)]
      simpa using hlast
  | some split =>
      obtain ⟨before, behind⟩ := split
      obtain ⟨rfl, hdot⟩ := eq_append_of_splitLastDot? hsplit
      obtain ⟨hbefore, hword⟩ : isTablePath before = true ∧ isWord behind = true := by
        simpa [isTablePath_append _ hdot] using htable
      have hlast := isWord_append hadded hword
      simp only [beforeLastPart, hsplit, List.append_assoc, List.cons_append]
      rw [isTablePath_append _ (dot_not_mem_of_isWord hlast), hbefore, hlast]
      rfl

/-! ## Paths as they are written -/

theorem intercalate_append {α : Type} (separator : α) {ls ms : List (List α)} (hls : ls ≠ [])
    (hms : ms ≠ []) :
    [separator].intercalate (ls ++ ms) =
      [separator].intercalate ls ++ separator :: [separator].intercalate ms := by
  induction ls with
  | nil => exact absurd rfl hls
  | cons l ls ih =>
      cases ls with
      | nil => simp [List.intercalate_cons_of_ne_nil hms]
      | cons k ls =>
          rw [List.cons_append, List.cons_append, List.intercalate_cons_cons,
            List.intercalate_cons_cons, ← List.cons_append, ih (by simp)]
          simp

theorem identifierChars_of_isPath (quote : Char) {cs : List Char}
    (hpath : isPath (splitDots cs) = true) :
    identifierChars quote cs = ['.'].intercalate ((splitDots cs).map (partChars quote)) := by
  rw [identifierChars, trimChars_eq_self (isBlank_of_mem_path hpath), pathParts?, if_pos hpath]

theorem identifierChars_trimChars (quote : Char) (cs : List Char) :
    identifierChars quote (Text.trimChars cs) = identifierChars quote cs := by
  rw [identifierChars, trimChars_trimChars, identifierChars]

/-- An expression is written as it is, without the blanks around it. -/
theorem identifierChars_of_not_isPath (quote : Char) {cs : List Char}
    (hpath : isPath (splitDots (Text.trimChars cs)) = false) :
    identifierChars quote cs = Text.trimChars cs := by
  simp [identifierChars, pathParts?, hpath]

/-- A column of a table is written as the table, a dot and the column. -/
theorem identifierChars_append (quote : Char) {table column : List Char}
    (htable : isTablePath table = true) (hcolumn : isColumnName column = true) :
    identifierChars quote (table ++ '.' :: column) =
      identifierChars quote table ++ '.' :: identifierChars quote column := by
  have hdot := dot_not_mem_of_isColumnName hcolumn
  have hpath : isPath (splitDots (table ++ '.' :: column)) = true := by
    rw [isPath_splitDots_append table hdot, htable, hcolumn]
    rfl
  rw [identifierChars_of_isPath quote hpath,
    identifierChars_of_isPath quote (isPath_of_isTablePath htable),
    identifierChars_of_isPath quote (isPath_of_isColumnName hcolumn), splitDots_append,
    List.map_append]
  exact intercalate_append '.' (by simp [splitDots_ne_nil]) (by simp [splitDots_ne_nil])

end BoundSql.Sql
