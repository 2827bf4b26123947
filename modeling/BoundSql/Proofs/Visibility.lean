import BoundSql.Proofs.Path

/-!
# Tables in view

A statement sees the tables that it brings in, and inside `EXISTS` also those that the statements
around it see. What is appended by `UNION` sees its own tables alone. `Scope` keeps the names of all
tables in view in two lists. The lemmas say what a column becomes in a scope by the tables
themselves: their names, the names they go by, and the last parts of their names.
-/

namespace BoundSql.Sql

/-! ## The names of tables -/

/-- Whether a table goes by its own name, and this is the name. -/
def HasTable (tables : List TableRef) (name : String) : Prop :=
  ∃ t ∈ tables, t.asName = none ∧ Text.trim t.name = name

/-- Whether a table was given this name to go by. -/
def HasAlias (tables : List TableRef) (name : String) : Prop :=
  ∃ t ∈ tables, ∃ asName ∈ t.asName, Text.trim asName = name

/-- Whether this is the last part of the name of a table that goes by its own name. -/
def HasLastPart (tables : List TableRef) (name : String) : Prop :=
  ∃ t ∈ tables, t.asName = none ∧ lastPart (Text.trimChars t.name.toList) = name.toList

/-- Whether a name may stand for one of the tables. -/
def Declares (tables : List TableRef) (name : String) : Prop :=
  HasAlias tables name ∨ HasTable tables name ∨ HasLastPart tables name

section
variable (tables : List TableRef) (name : String)

instance : Decidable (HasTable tables name) :=
  inferInstanceAs (Decidable (∃ t ∈ tables, t.asName = none ∧ Text.trim t.name = name))

instance : Decidable (HasAlias tables name) :=
  inferInstanceAs (Decidable (∃ t ∈ tables, ∃ asName ∈ t.asName, Text.trim asName = name))

instance : Decidable (HasLastPart tables name) :=
  inferInstanceAs (Decidable (∃ t ∈ tables, t.asName = none ∧
    lastPart (Text.trimChars t.name.toList) = name.toList))

instance : Decidable (Declares tables name) :=
  inferInstanceAs (Decidable (_ ∨ _))

end

theorem hasTable_append (tables tables' : List TableRef) (name : String) :
    HasTable (tables ++ tables') name ↔ HasTable tables name ∨ HasTable tables' name := by
  simp only [HasTable, List.mem_append, or_and_right, exists_or]

theorem hasAlias_append (tables tables' : List TableRef) (name : String) :
    HasAlias (tables ++ tables') name ↔ HasAlias tables name ∨ HasAlias tables' name := by
  simp only [HasAlias, List.mem_append, or_and_right, exists_or]

theorem hasLastPart_append (tables tables' : List TableRef) (name : String) :
    HasLastPart (tables ++ tables') name ↔ HasLastPart tables name ∨ HasLastPart tables' name := by
  simp only [HasLastPart, List.mem_append, or_and_right, exists_or]

/-- The scope of a statement that sees these tables. -/
def scopeOf (tables : List TableRef) : Scope :=
  tables.foldl Scope.add Scope.empty

theorem enter_scopeOf (visible : List TableRef) (source : Source) (joins : List Join) :
    (scopeOf visible).enter source joins = scopeOf (visible ++ Scope.tablesOf source joins) := by
  simp only [scopeOf, Scope.enter, List.foldl_append]

theorem trimChars_eq_iff (s name : String) :
    Text.trimChars s.toList = name.toList ↔ Text.trim s = name := by
  rw [Text.trim, ← String.toList_inj, String.toList_ofList]

section
variable (tables : List TableRef) (name : String)

/-- Every table is entered once, in the list of aliases or in that of tables. -/
theorem foldl_add (scope : Scope) :
    tables.foldl Scope.add scope =
      { tables := scope.tables ++ (tables.filter (·.asName.isNone)).map fun t =>
          Text.trimChars t.name.toList
        aliases := scope.aliases ++ (tables.filterMap (·.asName)).map fun asName =>
          Text.trimChars asName.toList } := by
  induction tables generalizing scope with
  | nil => simp
  | cons t tables ih =>
      rw [List.foldl_cons, ih]
      cases h : t.asName with
      | none => simp [Scope.add, h]
      | some asName => simp [Scope.add, h]

theorem mem_aliases_scopeOf : name.toList ∈ (scopeOf tables).aliases ↔ HasAlias tables name := by
  simp only [scopeOf, foldl_add, Scope.empty, List.nil_append, List.mem_map, List.mem_filterMap,
    trimChars_eq_iff, HasAlias, Option.mem_def]
  constructor
  · rintro ⟨asName, ⟨t, ht, hasName⟩, htrim⟩
    exact ⟨t, ht, asName, hasName, htrim⟩
  · rintro ⟨t, ht, asName, hasName, htrim⟩
    exact ⟨asName, ⟨t, ht, hasName⟩, htrim⟩

theorem mem_tables_scopeOf {p : List Char → Prop} :
    (∃ table ∈ (scopeOf tables).tables, p table) ↔
      ∃ t ∈ tables, t.asName = none ∧ p (Text.trimChars t.name.toList) := by
  simp only [scopeOf, foldl_add, Scope.empty, List.nil_append, List.mem_map, List.mem_filter,
    Option.isNone_iff_eq_none]
  constructor
  · rintro ⟨_, ⟨t, ⟨ht, hname⟩, rfl⟩, hp⟩
    exact ⟨t, ht, hname, hp⟩
  · rintro ⟨t, ht, hname, hp⟩
    exact ⟨_, ⟨t, ⟨ht, hname⟩, rfl⟩, hp⟩

/-- A name stands for a table unless it was given to one. -/
theorem namesTable_scopeOf :
    (scopeOf tables).namesTable name.toList = true ↔
      ¬HasAlias tables name ∧ (HasTable tables name ∨ HasLastPart tables name) := by
  rw [Scope.namesTable, Bool.and_eq_true, Bool.not_eq_true', ← Bool.not_eq_true,
    List.contains_iff_mem, mem_aliases_scopeOf, List.any_eq_true, mem_tables_scopeOf]
  simp only [Bool.or_eq_true, decide_eq_true_eq, trimChars_eq_iff, HasTable, HasLastPart,
    and_or_left, exists_or]

end

/-! ## Qualified columns -/

/-- Whether a column is written as the path of a table, a dot and the name of a column. -/
structure Qualifies (table column path : String) : Prop where
  text : Text.trim path = table ++ "." ++ column
  isTablePath : isTablePath table.toList = true
  isColumnName : isColumnName column.toList = true

theorem Qualifies.trimChars_eq {table column path : String} (h : Qualifies table column path) :
    Text.trimChars path.toList = table.toList ++ '.' :: column.toList := by
  have htext := congrArg String.toList h.text
  simpa [Text.trim] using htext

namespace Qualifies
variable {table column path : String}

theorem dot_mem (h : Qualifies table column path) : '.' ∈ path.toList := by
  apply mem_of_mem_trimChars
  rw [h.trimChars_eq]
  simp

/-- A column has one qualifier. -/
theorem table_eq {table' column' : String} (h : Qualifies table column path)
    (h' : Qualifies table' column' path) : table = table' := by
  have hsplit := splitLastDot?_append table.toList (dot_not_mem_of_isColumnName h.isColumnName)
  have hsplit' := splitLastDot?_append table'.toList (dot_not_mem_of_isColumnName h'.isColumnName)
  rw [← h.trimChars_eq] at hsplit
  rw [← h'.trimChars_eq, hsplit] at hsplit'
  have htables : table = table' ∧ column = column' := by simpa [String.toList_inj] using hsplit'
  exact htables.1

end Qualifies

/-- A path with a dot in it is a qualified column. -/
theorem exists_qualifies {path : String} {parts : List (List Char)} {table column : List Char}
    (hparts : pathParts? (Text.trimChars path.toList) = some parts)
    (hsplit : splitLastDot? (Text.trimChars path.toList) = some (table, column)) :
    Qualifies (.ofList table) (.ofList column) path := by
  obtain ⟨htext, hdot⟩ := eq_append_of_splitLastDot? hsplit
  have hpath := (isPath_of_pathParts? hparts).1
  rw [htext, isPath_splitDots_append table hdot, Bool.and_eq_true] at hpath
  refine ⟨?_, by simpa using hpath.1, by simpa using hpath.2⟩
  rw [Text.trim, htext]
  simp [← String.toList_inj]

/-- What a column becomes depends on what its qualifier stands for. -/
theorem column_congr (added : String) {scope scope' : Scope} {path : String}
    (h : ∀ table column, Qualifies table column path →
      scope.namesTable table.toList = scope'.namesTable table.toList) :
    scope.column added path = scope'.column added path := by
  simp only [Scope.column]
  split
  · rename_i parts before behind hparts hsplit
    have hnames := h _ _ (exists_qualifies hparts hsplit)
    rw [String.toList_ofList] at hnames
    rw [hnames]
  · rfl

section
variable {tables : List TableRef} {table column path : String} (added : String)

/-- The last part of the table gets the text in front of it. -/
theorem column_of_hasTable (hpath : Qualifies table column path)
    (htable : HasTable tables table) (halias : ¬HasAlias tables table) :
    (scopeOf tables).column added path =
      .ofList (beforeLastPart added.toList table.toList ++ '.' :: column.toList) := by
  have hdot := dot_not_mem_of_isColumnName hpath.isColumnName
  have hparts : isPath (splitDots (table.toList ++ '.' :: column.toList)) = true := by
    rw [isPath_splitDots_append _ hdot, hpath.isTablePath, hpath.isColumnName]
    rfl
  have hnames := (namesTable_scopeOf tables table).mpr ⟨halias, .inl htable⟩
  simp only [Scope.column, hpath.trimChars_eq, pathParts?, if_pos hparts,
    splitLastDot?_append _ hdot, if_pos hnames]

/-- A column stays as it is if its qualifier stands for no table in view, or was given to one. -/
theorem column_eq_self
    (h : ∀ table column, Qualifies table column path → Declares tables table →
      HasAlias tables table) :
    (scopeOf tables).column added path = path := by
  rw [Scope.column]
  split
  · rename_i parts before behind hparts hsplit
    have hqualifies := exists_qualifies hparts hsplit
    apply if_neg
    intro hnames
    rw [← String.toList_ofList (l := before), namesTable_scopeOf] at hnames
    exact hnames.1 (h _ _ hqualifies (.inr hnames.2))
  · rfl

end

end BoundSql.Sql
