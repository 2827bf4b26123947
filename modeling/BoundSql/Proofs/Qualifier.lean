import BoundSql.Proofs.Layout.Coverage

/-!
# Qualified columns

A prefix is put in front of table names by one piece of code and in front of the qualifiers of
columns by another, and both texts are quoted afterwards. `columnText_of_hasTable` says that they
agree: a column is written as its table, a dot and the column, wherever its qualifier stands for a
table in view that goes by its own name. `columnText_of_not_declares` is the other case, a column
that is written as it is given.

What is in view decides between the two. A name given to a table by a statement around takes the
place of a table of the statement itself (`own_table_written`), and what is appended does not see
the tables around the statement that it is appended to (`appended_written_by_own_tables`).
-/

namespace BoundSql.Sql

open Template

/-- The text of a column as it is written in a role, behind its qualifier or without one. -/
def Spelling.inRole (s : Spelling) : Role → String → String
  | .plain, column => column
  | .datePart part, column => s.datePart part column
  | .joined _, column => column

namespace Spelling
variable (s : Spelling)

theorem identifier_append {table column : List Char} (htable : isTablePath table = true)
    (hcolumn : isColumnName column = true) :
    s.identifier (.ofList (table ++ '.' :: column)) =
      s.identifier (.ofList table) ++ "." ++ s.identifier (.ofList column) := by
  simp only [identifier, String.toList_ofList, identifierChars_append s.quote htable hcolumn]
  simp [← String.toList_inj]

/-- A table without alias is written as its name with the prefix in front of the last part. -/
theorem table_eq_identifier {table : String} (htable : isTablePath table.toList = true) :
    s.table table none =
      s.identifier (.ofList (beforeLastPart s.tablePrefix.toList table.toList)) := by
  have hblank := isBlank_of_mem_path (isPath_of_isTablePath htable)
  rw [Spelling.table, named, prefixed, trimChars_eq_self hblank]

section
variable {role : Role} {place : Place} {table column path : String}

/-- With a dot in it, a column of the condition of a join is written like any other. -/
theorem columnText_of_dot_mem (hdot : '.' ∈ (s.renamed place.scope path).toList) :
    s.columnText role place path =
      s.inRole role (s.identifier (s.renamed place.scope path)) := by
  cases role with
  | plain => rfl
  | datePart part => rfl
  | joined owner => exact if_pos (by simpa using hdot)

/-- A qualifier that names a table in view is written as the table. -/
theorem columnText_of_hasTable (hword : isWord s.tablePrefix.toList = true)
    (hpath : Qualifies table column path) (htable : HasTable place.visible table)
    (halias : ¬HasAlias place.visible table) :
    s.columnText role place path =
      s.inRole role (s.table table none ++ "." ++ s.identifier column) := by
  have hne : ¬s.tablePrefix.isEmpty = true := by
    intro hempty
    rw [String.isEmpty_iff.mp hempty] at hword
    exact absurd hword (by decide)
  have hrenamed : s.renamed place.scope path =
      .ofList (beforeLastPart s.tablePrefix.toList table.toList ++ '.' :: column.toList) := by
    rw [renamed, if_neg hne]
    exact column_of_hasTable s.tablePrefix hpath htable halias
  have hlast := isTablePath_beforeLastPart hword hpath.isTablePath
  rw [columnText_of_dot_mem s (by simp [hrenamed]), hrenamed,
    s.identifier_append hlast hpath.isColumnName, s.table_eq_identifier hpath.isTablePath,
    String.ofList_toList]

/-- A column that keeps its name is written as it is given. -/
theorem columnText_of_not_declares (hpath : Qualifies table column path)
    (h : HasAlias place.visible table ∨ ¬Declares place.visible table) :
    s.columnText role place path = s.inRole role (s.identifier path) := by
  have hrenamed : s.renamed place.scope path = path := by
    unfold renamed
    split
    · rfl
    · apply column_eq_self
      intro table' column' hpath' hdeclares
      obtain rfl := hpath.table_eq hpath'
      exact h.resolve_right (not_not_intro hdeclares)
  rw [columnText_of_dot_mem s (by simpa [hrenamed] using hpath.dot_mem), hrenamed]

end

/-- A column without a dot is written behind the name by which conditions refer to its table. -/
theorem columnText_joined_table (place : Place) (t : TableRef) {path : String}
    (hdot : '.' ∉ path.toList) :
    s.columnText (.joined (.table t)) place path =
      s.tableReference t ++ "." ++ s.identifier path := by
  have hrenamed : s.renamed place.scope path = path := by
    unfold renamed
    split
    · rfl
    · apply column_eq_self
      intro table column hpath
      exact absurd hpath.dot_mem hdot
  simp only [columnText, sourceReference, hrenamed]
  exact if_neg (by simpa using hdot)

/-- Conditions of joins refer to a table by what stands behind `AS`, or by all of its text. -/
theorem table_eq_tableReference (t : TableRef) :
    s.table t.name t.asName =
      match t.asName with
      | some _ => s.table t.name none ++ " AS " ++ s.tableReference t
      | none => s.tableReference t := by
  obtain ⟨name, asName⟩ := t
  cases asName <;> rfl

end Spelling

/-- Whether a statement compiles to the text between the two templates. -/
def Dialect.Writes (d : Dialect) (root : Statement) (before : Template) (written : String)
    (after : Template) : Prop :=
  ∀ bound, d.compileAfter bound root =
    ((before ++ text written ++ after).print d.placeholder).after bound

theorem Stands.writes {d : Dialect} {root : Statement} {before after : Template} {role : Role}
    {place : Place} {path : String}
    (h : Stands d.toSpelling root before (.column role place path) after) :
    d.Writes root before (d.columnText role place path) after := by
  intro bound
  rw [Dialect.compileAfter, h.statement_eq]
  rfl

/-- Every column that a statement of a tree names stands in its text. There a qualifier that names a
table in view is written exactly as the table, with the prefix once, and a column without qualifier
in the condition of a join is written behind the name that its table goes by. -/
theorem column_written_as_table (d : Dialect) (hword : isWord d.tablePrefix.toList = true)
    (root : Statement) :
    (∀ site st, Occurs root site st → ∀ path ∈ st.writtenNames, ∃ before role after,
      Stands d.toSpelling root before
        (.column role ⟨site, Scope.tablesOf st.source st.joins⟩ path) after) ∧
    ∀ before role place path after,
      Stands d.toSpelling root before (.column role place path) after →
      (∀ table column, Qualifies table column path → HasTable place.visible table →
        ¬HasAlias place.visible table →
          d.table table none =
            d.identifier (.ofList (beforeLastPart d.tablePrefix.toList table.toList)) ∧
          d.Writes root before
            (d.inRole role (d.table table none ++ "." ++ d.identifier column)) after) ∧
      ∀ t, role = .joined (.table t) → '.' ∉ path.toList →
        ∃ reference,
          d.table t.name t.asName =
            (match t.asName with
            | some _ => d.table t.name none ++ " AS " ++ reference
            | none => reference) ∧
          d.Writes root before (reference ++ "." ++ d.identifier path) after := by
  constructor
  · intro site st hoccurs path hpath
    exact hoccurs.exists_stands_column hpath
  · intro before role place path after hstands
    have hwrites := hstands.writes
    constructor
    · intro table column hpath htable halias
      rw [d.columnText_of_hasTable hword hpath htable halias] at hwrites
      exact ⟨d.table_eq_identifier hpath.isTablePath, hwrites⟩
    · rintro t rfl hdot
      rw [d.columnText_joined_table place t hdot] at hwrites
      exact ⟨d.tableReference t, d.table_eq_tableReference t, hwrites⟩

/-- Comments on a post of a blog. -/
def blogComments : Statement :=
  { source := .table ⟨"comments", none⟩
    wheres := [.ofTest .and (.columns "comments.post_id" "=" "blog.Posts.id")] }

/-- Posts of a blog together with their authors, if they have comments. -/
def authoredPosts : Statement :=
  { source := .table ⟨"blog.Posts", none⟩
    joins := [⟨.inner, .table ⟨"users", some "author"⟩, some (.columns "author_id" "=" "id")⟩]
    wheres := [⟨.and, .hasRows (.statement blogComments) false⟩] }

theorem column_written_as_table_authoredPosts :
    let d := Dialect.postgres.withPrefix "wp_"
    let around : List TableRef := [⟨"blog.Posts", none⟩, ⟨"users", some "author"⟩]
    let within : Place := ⟨.inExists .top around, [⟨"comments", none⟩]⟩
    let joined : Role := .joined (.table ⟨"users", some "author"⟩)
    isWord d.tablePrefix.toList = true ∧
      Qualifies "blog.Posts" "id" "blog.Posts.id" ∧ HasTable within.visible "blog.Posts" ∧
      ¬HasAlias within.visible "blog.Posts" ∧
      (∃ before after,
        Stands d.toSpelling authoredPosts before (.column .plain within "blog.Posts.id") after ∧
          d.Writes authoredPosts before ("blog.\"wp_Posts\"" ++ "." ++ "id") after) ∧
      ∃ before after,
        Stands d.toSpelling authoredPosts before (.column joined ⟨.top, around⟩ "id") after ∧
          ∃ reference, "wp_users AS author" = "wp_users AS " ++ reference ∧
            d.Writes authoredPosts before (reference ++ "." ++ "id") after := by
  intro d around within joined
  have hword : isWord d.tablePrefix.toList = true := by decide
  have hpath : Qualifies "blog.Posts" "id" "blog.Posts.id" := ⟨by decide, by decide, by decide⟩
  have htable : HasTable within.visible "blog.Posts" := by decide
  have halias : ¬HasAlias within.visible "blog.Posts" := by decide
  have hid : d.identifier "id" = "id" := by decide +kernel
  refine ⟨hword, hpath, htable, halias, ?correlated, ?joined⟩
  case correlated =>
    have hsubquery : Segment.hasRows false (.inExists .top around) blogComments ∈
        Layout.statement d.toSpelling .top authoredPosts := List.mem_of_getElem? (i := 10) rfl
    have hcolumn : Segment.column .plain within "blog.Posts.id" ∈
        Layout.statement d.toSpelling (.inExists .top around) blogComments :=
      List.mem_of_getElem? (i := 6) rfl
    obtain ⟨_, _, houter⟩ := exists_stands hsubquery
    obtain ⟨before, after, hstands⟩ := houter.exists_inExists hcolumn
    obtain ⟨hown, -⟩ := (column_written_as_table d hword _).2 _ _ _ _ _ hstands
    obtain ⟨-, hwrites⟩ := hown _ _ hpath htable halias
    have htext : d.table "blog.Posts" none = "blog.\"wp_Posts\"" := by decide +kernel
    rw [htext, hid] at hwrites
    exact ⟨before, after, hstands, hwrites⟩
  case joined =>
    have hcolumn : Segment.column joined ⟨.top, around⟩ "id" ∈
        Layout.statement d.toSpelling .top authoredPosts := List.mem_of_getElem? (i := 6) rfl
    obtain ⟨before, after, hstands⟩ := exists_stands hcolumn
    obtain ⟨-, hjoin⟩ := (column_written_as_table d hword _).2 _ _ _ _ _ hstands
    obtain ⟨reference, htext, hwrites⟩ := hjoin _ rfl (by decide)
    have hown : d.table "users" none = "wp_users" := by decide +kernel
    have hjoined : d.table "users" (some "author") = "wp_users AS author" := by decide +kernel
    simp only [hown, hjoined] at htext
    rw [hid] at hwrites
    exact ⟨before, after, hstands, reference, htext, hwrites⟩

/-- Inside `EXISTS` a table of the statement itself is written with the prefix, as long as no
statement around gave its name to another table. If one did, the column is written as it is given
and does not get the prefix. -/
theorem own_table_written (d : Dialect) (hword : isWord d.tablePrefix.toList = true)
    {root : Statement} {before after : Template} {role : Role} {outer : Site}
    {around own : List TableRef} {table column path : String}
    (hstands : Stands d.toSpelling root before
      (.column role ⟨.inExists outer around, own⟩ path) after)
    (hpath : Qualifies table column path) (htable : HasTable own table)
    (halias : ¬HasAlias own table) :
    (¬HasAlias (outer.visible ++ around) table →
      d.Writes root before
        (d.inRole role (d.table table none ++ "." ++ d.identifier column)) after) ∧
    (HasAlias (outer.visible ++ around) table →
      d.Writes root before (d.inRole role (d.identifier path)) after) := by
  have hwrites := hstands.writes
  have hvisible : Place.visible ⟨.inExists outer around, own⟩ =
      (outer.visible ++ around) ++ own := rfl
  constructor
  · intro hfree
    have htable' : HasTable ((outer.visible ++ around) ++ own) table :=
      (hasTable_append _ _ _).mpr (.inr htable)
    have halias' : ¬HasAlias ((outer.visible ++ around) ++ own) table := by
      rw [hasAlias_append, not_or]
      exact ⟨hfree, halias⟩
    rw [← hvisible] at htable' halias'
    rwa [d.columnText_of_hasTable hword hpath htable' halias'] at hwrites
  · intro hshadowed
    have halias' : HasAlias ((outer.visible ++ around) ++ own) table :=
      (hasAlias_append _ _ _).mpr (.inl hshadowed)
    rw [← hvisible] at halias'
    rwa [d.columnText_of_not_declares hpath (.inl halias')] at hwrites

/-- The posts with a certain number. -/
def onePost : Statement :=
  { source := .table ⟨"posts", none⟩
    wheres := [.ofTest .and (.compare "posts.id" "=" (.int 1))] }

/-- Users, under another name if one is given, as long as there is a certain post. -/
def usersWithPost (asName : Option String) : Statement :=
  { source := .table ⟨"users", asName⟩
    wheres := [⟨.and, .hasRows (.statement onePost) false⟩] }

theorem own_table_written_usersWithPost :
    let d := Dialect.postgres.withPrefix "wp_"
    let place (asName : Option String) : Place :=
      ⟨.inExists .top [⟨"users", asName⟩], [⟨"posts", none⟩]⟩
    isWord d.tablePrefix.toList = true ∧ Qualifies "posts" "id" "posts.id" ∧
      HasTable [⟨"posts", none⟩] "posts" ∧ ¬HasAlias [⟨"posts", none⟩] "posts" ∧
      (∃ before after,
        Stands d.toSpelling (usersWithPost none) before
            (.column .plain (place none) "posts.id") after ∧
          d.Writes (usersWithPost none) before ("wp_posts" ++ "." ++ "id") after) ∧
      ∃ before after,
        Stands d.toSpelling (usersWithPost (some "posts")) before
            (.column .plain (place (some "posts")) "posts.id") after ∧
          d.Writes (usersWithPost (some "posts")) before "posts.id" after := by
  intro d place
  have hword : isWord d.tablePrefix.toList = true := by decide
  have hpath : Qualifies "posts" "id" "posts.id" := ⟨by decide, by decide, by decide⟩
  have htable : HasTable [⟨"posts", none⟩] "posts" := by decide
  have halias : ¬HasAlias [⟨"posts", none⟩] "posts" := by decide
  have hcolumn (asName : Option String) : ∃ before after,
      Stands d.toSpelling (usersWithPost asName) before
        (.column .plain (place asName) "posts.id") after := by
    have hsubquery : Segment.hasRows false (.inExists .top [⟨"users", asName⟩]) onePost ∈
        Layout.statement d.toSpelling .top (usersWithPost asName) :=
      List.mem_of_getElem? (i := 4) rfl
    have hown : Segment.column .plain (place asName) "posts.id" ∈
        Layout.statement d.toSpelling (.inExists .top [⟨"users", asName⟩]) onePost :=
      List.mem_of_getElem? (i := 4) rfl
    obtain ⟨_, _, houter⟩ := exists_stands hsubquery
    exact houter.exists_inExists hown
  refine ⟨hword, hpath, htable, halias, ?free, ?shadowed⟩
  case free =>
    obtain ⟨before, after, hstands⟩ := hcolumn none
    have hwrites := (own_table_written d hword hstands hpath htable halias).1 (by decide)
    have htext : d.table "posts" none = "wp_posts" := by decide +kernel
    have hid : d.identifier "id" = "id" := by decide +kernel
    rw [htext, hid] at hwrites
    exact ⟨before, after, hstands, hwrites⟩
  case shadowed =>
    obtain ⟨before, after, hstands⟩ := hcolumn (some "posts")
    have hwrites := (own_table_written d hword hstands hpath htable halias).2 (by decide)
    have hid : d.identifier "posts.id" = "posts.id" := by decide +kernel
    rw [hid] at hwrites
    exact ⟨before, after, hstands, hwrites⟩

/-- The name given to the users takes the prefix from the column of the posts, which are written
with it. -/
theorem usersWithPost_shadowed_sql :
    let d := Dialect.postgres.withPrefix "wp_"
    d.table "posts" none ++ "." ++ d.identifier "id" = "wp_posts.id" ∧
      (d.compile (usersWithPost (some "posts"))).sql =
        "SELECT * FROM wp_users AS posts " ++
          "WHERE EXISTS (SELECT * FROM wp_posts WHERE posts.id = $1)" := by
  decide +kernel

/-- What is appended sees its own tables alone, wherever it is appended: a column whose qualifier it
does not declare is written as it is given, also inside `EXISTS`. There the statement that it is
appended to sees the tables around. -/
theorem appended_written_by_own_tables (d : Dialect)
    (hword : isWord d.tablePrefix.toList = true) {root : Statement} {before after : Template}
    {role : Role} {own : List TableRef} {table column path : String}
    (hpath : Qualifies table column path) :
    (∀ outer siblings,
      Stands d.toSpelling root before
        (.column role ⟨.appended outer siblings, own⟩ path) after →
      (¬Declares own table → d.Writes root before (d.inRole role (d.identifier path)) after) ∧
      (HasTable own table → ¬HasAlias own table → d.Writes root before
        (d.inRole role (d.table table none ++ "." ++ d.identifier column)) after)) ∧
    (∀ around,
      Stands d.toSpelling root before
        (.column role ⟨.inExists .top around, own⟩ path) after →
      HasTable around table → ¬HasAlias (around ++ own) table → d.Writes root before
        (d.inRole role (d.table table none ++ "." ++ d.identifier column)) after) := by
  constructor
  · intro outer siblings hstands
    have hwrites := hstands.writes
    have hvisible : Place.visible ⟨.appended outer siblings, own⟩ = own := rfl
    constructor
    · intro hunknown
      rw [← hvisible] at hunknown
      rwa [d.columnText_of_not_declares hpath (.inr hunknown)] at hwrites
    · intro htable halias
      rw [← hvisible] at htable halias
      rwa [d.columnText_of_hasTable hword hpath htable halias] at hwrites
  · intro around hstands htable halias
    have hwrites := hstands.writes
    have hvisible : Place.visible ⟨.inExists .top around, own⟩ = around ++ own := rfl
    have htable' : HasTable (around ++ own) table := (hasTable_append _ _ _).mpr (.inl htable)
    rw [← hvisible] at htable' halias
    rwa [d.columnText_of_hasTable hword hpath htable' halias] at hwrites

/-- Likes of a post. -/
def likesOfPost : Statement :=
  { source := .table ⟨"likes", none⟩
    wheres := [.ofTest .and (.columns "likes.post_id" "=" "posts.id")] }

/-- Comments on a post, together with its likes. -/
def reactionsToPost : Statement :=
  { source := .table ⟨"comments", none⟩
    wheres := [.ofTest .and (.columns "comments.post_id" "=" "posts.id")]
    unions := [⟨false, .statement likesOfPost⟩] }

/-- Posts with a comment or a like. -/
def postsWithReaction : Statement :=
  { source := .table ⟨"posts", none⟩
    wheres := [⟨.and, .hasRows (.statement reactionsToPost) false⟩] }

theorem appended_written_by_own_tables_postsWithReaction :
    let d := Dialect.postgres.withPrefix "wp_"
    let inside : Site := .inExists .top [⟨"posts", none⟩]
    let first : Place := ⟨inside, [⟨"comments", none⟩]⟩
    let member : Place := ⟨.appended inside [⟨"comments", none⟩], [⟨"likes", none⟩]⟩
    isWord d.tablePrefix.toList = true ∧ Qualifies "posts" "id" "posts.id" ∧
      (∃ before after,
        Stands d.toSpelling postsWithReaction before (.column .plain member "posts.id") after ∧
          ¬Declares [⟨"likes", none⟩] "posts" ∧
          d.Writes postsWithReaction before "posts.id" after) ∧
      ∃ before after,
        Stands d.toSpelling postsWithReaction before (.column .plain first "posts.id") after ∧
          HasTable [⟨"posts", none⟩] "posts" ∧
          ¬HasAlias [⟨"posts", none⟩, ⟨"comments", none⟩] "posts" ∧
          d.Writes postsWithReaction before ("wp_posts" ++ "." ++ "id") after := by
  intro d inside first member
  have hword : isWord d.tablePrefix.toList = true := by decide
  have hpath : Qualifies "posts" "id" "posts.id" := ⟨by decide, by decide, by decide⟩
  have hsubquery : Segment.hasRows false inside reactionsToPost ∈
      Layout.statement d.toSpelling .top postsWithReaction := List.mem_of_getElem? (i := 4) rfl
  obtain ⟨_, _, houter⟩ := exists_stands hsubquery
  refine ⟨hword, hpath, ?member, ?first⟩
  case member =>
    have hmember : Segment.appended false (.appended inside [⟨"comments", none⟩]) likesOfPost ∈
        Layout.statement d.toSpelling inside reactionsToPost := List.mem_of_getElem? (i := 8) rfl
    have hcolumn : Segment.column .plain member "posts.id" ∈
        Layout.statement d.toSpelling (.appended inside [⟨"comments", none⟩]) likesOfPost :=
      List.mem_of_getElem? (i := 6) rfl
    obtain ⟨_, _, hinner⟩ := houter.exists_inExists hmember
    obtain ⟨before, after, hstands⟩ := hinner.exists_appended hcolumn
    have hunknown : ¬Declares [⟨"likes", none⟩] "posts" := by decide
    obtain ⟨hwrites, -⟩ := (appended_written_by_own_tables d hword hpath).1 _ _ hstands
    have hid : d.identifier "posts.id" = "posts.id" := by decide +kernel
    rw [hid] at hwrites
    exact ⟨before, after, hstands, hunknown, hwrites hunknown⟩
  case first =>
    have hcolumn : Segment.column .plain first "posts.id" ∈
        Layout.statement d.toSpelling inside reactionsToPost := List.mem_of_getElem? (i := 6) rfl
    obtain ⟨before, after, hstands⟩ := houter.exists_inExists hcolumn
    have htable : HasTable [⟨"posts", none⟩] "posts" := by decide
    have halias : ¬HasAlias [⟨"posts", none⟩, ⟨"comments", none⟩] "posts" := by decide
    have hwrites :=
      (appended_written_by_own_tables d hword hpath).2 _ hstands htable halias
    have htext : d.table "posts" none = "wp_posts" := by decide +kernel
    have hid : d.identifier "id" = "id" := by decide +kernel
    rw [htext, hid] at hwrites
    exact ⟨before, after, hstands, htable, halias, hwrites⟩

/-- The appended likes name the posts without the prefix, in the same text as the comments do with
it. -/
theorem postsWithReaction_sql :
    ((Dialect.postgres.withPrefix "wp_").compile postsWithReaction).sql =
      "SELECT * FROM wp_posts WHERE EXISTS (SELECT * FROM wp_comments " ++
        "WHERE wp_comments.post_id = wp_posts.id " ++
        "UNION SELECT * FROM wp_likes WHERE wp_likes.post_id = posts.id)" := by
  decide +kernel

end BoundSql.Sql
