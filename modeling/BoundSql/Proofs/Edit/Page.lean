import BoundSql.Proofs.Edit.Basic
import BoundSql.Proofs.Nesting
import BoundSql.Proofs.Parameters
import Mathlib.Algebra.Order.Ring.Int

/-!
# Pages of a selection

Paginating a selection bounds it to the rows of one page. Pages count from one, they have at least
one row each, and the first row of a page is counted without overflow: an offset beyond the largest
number is that number. `page_windows_tile` says how the bounds are written, and that a page begins
where the one before it ends, as long as that place can be counted.
-/

namespace BoundSql

/-! ## Bounds in numbers -/

theorem toInt_max (a b : Int64) : (max a b).toInt = max a.toInt b.toInt := by
  have hmax : max a b = if a ≤ b then b else a := rfl
  rw [hmax]
  split
  case isTrue hle =>
    rw [Int64.le_iff_toInt_le] at hle
    exact (max_eq_right hle).symm
  case isFalse hle =>
    rw [Int64.le_iff_toInt_le, not_le] at hle
    exact (max_eq_left hle.le).symm

/-- The product of numbers that are not negative, or the largest number. -/
theorem toInt_saturatingMul {a b : Int64} (ha : 0 ≤ a.toInt) (hb : 0 ≤ b.toInt) :
    (saturatingMul a b).toInt = min (a.toInt * b.toInt) Int64.maxValue.toInt := by
  have hproduct : 0 ≤ a.toInt * b.toInt := Int.mul_nonneg ha hb
  have hlargest : Int64.maxValue.toInt = 2 ^ 63 - 1 := Int64.toInt_maxValue
  have hsmallest : Int64.minValue.toInt = -2 ^ 63 := Int64.toInt_minValue
  dsimp only [saturatingMul]
  split
  case isTrue hbeyond => exact (min_eq_right hbeyond.le).symm
  case isFalse hwithin =>
    rw [if_neg (by omega), Int64.toInt_ofInt_of_le (by omega) (by omega),
      min_eq_left (not_lt.mp hwithin)]

/-- How many rows a page has. -/
def rowsPerPage (perPage : Int64) : Int64 :=
  max perPage 1

/-- How many rows are skipped before a page. -/
def rowsBefore (page perPage : Int64) : Int64 :=
  saturatingMul (max page 1 - 1) (rowsPerPage perPage)

/-- A page of a statement has all other clauses of the statement. -/
theorem paginate_eq (s : Statement) (page perPage : Int64) :
    s.paginate page perPage =
      { s with limit := some (rowsPerPage perPage)
               offset := some (rowsBefore page perPage) } := rfl

section
variable (page perPage : Int64)

theorem toInt_rowsPerPage : (rowsPerPage perPage).toInt = max perPage.toInt 1 :=
  toInt_max perPage 1

theorem one_le_rowsPerPage : 1 ≤ (rowsPerPage perPage).toInt := by
  rw [toInt_rowsPerPage]
  exact le_max_right _ _

theorem rowsPerPage_pos : 0 < rowsPerPage perPage :=
  Int64.lt_iff_toInt_lt.mpr (one_le_rowsPerPage perPage)

/-- Counting pages from zero does not overflow. -/
theorem toInt_max_sub_one : (max page 1 - 1).toInt = max page.toInt 1 - 1 := by
  have hone : (1 : Int64) ≤ max page 1 := by
    rw [Int64.le_iff_toInt_le, toInt_max]
    exact le_max_right _ _
  rw [Int64.toInt_sub_of_le _ _ (by decide) hone, toInt_max]
  rfl

theorem toInt_rowsBefore :
    (rowsBefore page perPage).toInt =
      min ((max page.toInt 1 - 1) * (rowsPerPage perPage).toInt) Int64.maxValue.toInt := by
  have hpage : 0 ≤ (max page 1 - 1).toInt := by
    rw [toInt_max_sub_one]
    omega
  have hrows := one_le_rowsPerPage perPage
  rw [rowsBefore, toInt_saturatingMul hpage (by omega), toInt_max_sub_one]

theorem rowsBefore_nonneg : 0 ≤ (rowsBefore page perPage).toInt := by
  have hrows := one_le_rowsPerPage perPage
  have hproduct : 0 ≤ (max page.toInt 1 - 1) * (rowsPerPage perPage).toInt :=
    Int.mul_nonneg (by omega) (by omega)
  rw [toInt_rowsBefore, Int64.toInt_maxValue]
  omega

/-- Some rows are skipped before a page just if it is not the first. -/
theorem rowsBefore_pos_iff : 0 < rowsBefore page perPage ↔ 2 ≤ page := by
  have hrows := one_le_rowsPerPage perPage
  rw [Int64.lt_iff_toInt_lt, Int64.le_iff_toInt_le, toInt_rowsBefore, lt_min_iff]
  have htwo : (2 : Int64).toInt = 2 := rfl
  have hzero : (0 : Int64).toInt = 0 := rfl
  have hlargest : (0 : Int) < Int64.maxValue.toInt := by decide
  rw [htwo, hzero]
  constructor
  · rintro ⟨hproduct, -⟩
    by_contra hfirst
    have hnone : max page.toInt 1 - 1 = 0 := by omega
    rw [hnone, Int.zero_mul] at hproduct
    exact absurd hproduct (lt_irrefl 0)
  · intro hpage
    exact ⟨Int.mul_pos (by omega) (by omega), hlargest⟩

end

section
variable {page next : Int64} (perPage : Int64)

/-- Later pages do not begin earlier. -/
theorem rowsBefore_mono (h : page ≤ next) : rowsBefore page perPage ≤ rowsBefore next perPage := by
  have hrows := one_le_rowsPerPage perPage
  rw [Int64.le_iff_toInt_le] at h ⊢
  rw [toInt_rowsBefore, toInt_rowsBefore]
  apply min_le_min_right
  exact Int.mul_le_mul_of_nonneg_right (by omega) (by omega)

/-- A page begins where the page before it ends, if that place can be counted. -/
theorem toInt_rowsBefore_next (hpage : 1 ≤ page) (hnext : next.toInt = page.toInt + 1)
    (hfits : page.toInt * (rowsPerPage perPage).toInt ≤ Int64.maxValue.toInt) :
    (rowsBefore next perPage).toInt =
      (rowsBefore page perPage).toInt + (rowsPerPage perPage).toInt := by
  have hrows := one_le_rowsPerPage perPage
  have hone : 1 ≤ page.toInt := Int64.le_iff_toInt_le.mp hpage
  have hpages : max page.toInt 1 = page.toInt := max_eq_left hone
  have hnexts : max next.toInt 1 - 1 = page.toInt := by omega
  have hstart : (page.toInt - 1) * (rowsPerPage perPage).toInt =
      page.toInt * (rowsPerPage perPage).toInt - (rowsPerPage perPage).toInt := by
    rw [Int.sub_mul, Int.one_mul]
  calc (rowsBefore next perPage).toInt
      = page.toInt * (rowsPerPage perPage).toInt := by
        rw [toInt_rowsBefore, hnexts, min_eq_left hfits]
    _ = (page.toInt - 1) * (rowsPerPage perPage).toInt + (rowsPerPage perPage).toInt := by
        rw [hstart, Int.sub_add_cancel]
    _ = (rowsBefore page perPage).toInt + (rowsPerPage perPage).toInt := by
        rw [toInt_rowsBefore, hpages, min_eq_left (by omega)]

end

/-! ## Bounds in texts -/

namespace Sql

open Template

section
variable (d : Dialect)

/-- A bound on the number of rows behind what is compiled before it. -/
def Dialect.appendBound (c : Compiled) (keyword : String) (n : Int64) : Compiled :=
  { sql := c.sql ++ keyword ++ d.placeholder (c.values.length + 1)
    values := c.values ++ [.int n] }

/-- A bound that is positive is compiled behind what comes before it, and others are not. -/
theorem after_print_rowBound (a : Template) (keyword : String) (n : Int64) (bound : List Value) :
    ((a ++ Spelling.rowBound keyword (some n)).print d.placeholder).after bound =
      let c := (a.print d.placeholder).after bound
      if 0 < n then d.appendBound c keyword n else c := by
  rw [after_print_append]
  by_cases hpositive : 0 < n
  · simp only [Spelling.rowBound, hpositive, decide_true, Template.clause, if_true,
      after_print_append, after_print_text, Dialect.appendBound, String.append_assoc]
    simp [Printer.after, run_print]
  · simp only [Spelling.rowBound, hpositive, decide_false, Template.clause, Bool.false_eq_true,
      if_false, Printer.after, run_print]
    simp [write, values]

/-- A selection with nothing behind its bounds is what it is without them, and they stand behind
it. -/
theorem templateAt_bounds (s : Spelling) (site : Site) {statement : Statement}
    (hselect : statement.action = .select) (limit offset : Option Int64) :
    s.templateAt site { statement with limit, offset, unions := [], lock := none } =
      s.templateAt site
          { statement with limit := none, offset := none, unions := [], lock := none } ++
        Spelling.rowBound " LIMIT " limit ++ Spelling.rowBound " OFFSET " offset := by
  have hnone (keyword : String) : Spelling.rowBound keyword none = [] := rfl
  have hlock : text (s.locking none) = [] := rfl
  simp only [Spelling.templateAt_eq_written, Layout.statement, hselect, Layout.ordering,
    Spelling.written_append, Spelling.written_cons, Spelling.written_nil, Spelling.written_text,
    Spelling.segment_fixed, hnone, hlock, List.flatMap_nil, List.append_nil, List.append_assoc]

/-- The bounds of a page are compiled one behind the other, behind the clauses before them and in
front of what is appended and the lock. The second is there just if the page is not the first. -/
theorem compileAfter_paginate (bound : List Value) {statement : Statement}
    (hselect : statement.action = .select) (page perPage : Int64) :
    let front := d.compileAfter bound
      { statement with limit := none, offset := none, unions := [], lock := none }
    let limited := d.appendBound front " LIMIT " (rowsPerPage perPage)
    let bounded :=
      if 2 ≤ page then d.appendBound limited " OFFSET " (rowsBefore page perPage) else limited
    let whole := statement.unions.foldl d.appendMember bounded
    d.compileAfter bound (statement.paginate page perPage) =
      ⟨whole.sql ++ d.locking statement.lock, whole.values⟩ := by
  intro front limited bounded whole
  have hlimit := rowsPerPage_pos perPage
  have htemplate := templateAt_bounds d.toSpelling .top hselect
    (some (rowsPerPage perPage)) (some (rowsBefore page perPage))
  rw [← template_eq_templateAt, ← template_eq_templateAt] at htemplate
  have hbounded : d.compileAfter bound
      { statement.paginate page perPage with unions := [], lock := none } = bounded := by
    rw [← after_print_template, paginate_eq, htemplate, after_print_rowBound,
      after_print_rowBound, after_print_template]
    simp only [hlimit, if_true, rowsBefore_pos_iff]
    rfl
  have hpaged : (statement.paginate page perPage).action = .select := hselect
  have hwhole := compileAfter_select d bound hpaged
  simp only [hbounded] at hwhole
  exact hwhole

/-- The bounds of a page are the parameters between those of the clauses before them and those of
what is appended. -/
theorem parameters_paginate {statement : Statement} (hselect : statement.action = .select)
    (page perPage : Int64) :
    (statement.paginate page perPage).parameters =
      Statement.parameters
          { statement with limit := none, offset := none, unions := [], lock := none } ++
        .int (rowsPerPage perPage) ::
          (if 2 ≤ page then [.int (rowsBefore page perPage)] else []) ++
        memberParameters statement.unions := by
  have hlimit := rowsPerPage_pos perPage
  have hsize : rowBoundParameters (some (rowsPerPage perPage)) = [.int (rowsPerPage perPage)] := by
    simp [rowBoundParameters, Option.filter, hlimit]
  have hoffset : rowBoundParameters (some (rowsBefore page perPage)) =
      if 2 ≤ page then [.int (rowsBefore page perPage)] else [] := by
    by_cases hpage : 2 ≤ page
    · simp [rowBoundParameters, Option.filter, rowsBefore_pos_iff, hpage]
    · simp [rowBoundParameters, Option.filter, rowsBefore_pos_iff, hpage]
  have hnone : rowBoundParameters none = [] := rfl
  rw [paginate_eq]
  obtain ⟨source, action⟩ := statement
  subst hselect
  simp only [Statement.parameters, hsize, hoffset, hnone, memberParameters, List.append_nil,
    List.append_assoc, List.cons_append, List.nil_append]

end

end Sql

/-- A page has at least one row, and begins behind all rows of the pages before it, or at the
largest number if there are more: nothing overflows on the way. Both bounds take the place of those
there were. A selection has them behind its other clauses and in front of what is appended, and the
second one just if the page is not the first. Later pages do not begin earlier, and the next one
begins where this one ends, as long as that place can be counted. -/
theorem page_windows_tile (b : Builder) (page perPage : Int64) :
    let size := rowsPerPage perPage
    let offset := rowsBefore page perPage
    let paged := b.withStatement { b.statement with limit := some size, offset := some offset }
    (Edit.paginate page perPage).apply b = .ok paged ∧
    (max page 1 - 1).toInt = (max page 1).toInt - 1 ∧
    (size.toInt = max perPage.toInt 1 ∧ 1 ≤ size) ∧
    (offset.toInt = min ((max page.toInt 1 - 1) * size.toInt) Int64.maxValue.toInt ∧ 0 ≤ offset) ∧
    (b.statement.action = .select →
      let front := b.dialect.compile
        { b.statement with limit := none, offset := none, unions := [], lock := none }
      let limited := b.dialect.appendBound front " LIMIT " size
      let bounded := if 2 ≤ page then b.dialect.appendBound limited " OFFSET " offset else limited
      let whole := b.statement.unions.foldl b.dialect.appendMember bounded
      paged.compile = ⟨whole.sql ++ b.dialect.locking b.statement.lock, whole.values⟩ ∧
        paged.compile.values = front.values ++
          .int size :: (if 2 ≤ page then [.int offset] else []) ++
            memberParameters b.statement.unions) ∧
    ∀ next, 1 ≤ page → page < next →
      offset ≤ rowsBefore next perPage ∧
        (next.toInt = page.toInt + 1 → page.toInt * size.toInt ≤ Int64.maxValue.toInt →
          (rowsBefore next perPage).toInt = offset.toInt + size.toInt) := by
  intro size offset paged
  refine ⟨rfl, ?subtraction, ?size, ?offset, ?written, ?next⟩
  case subtraction => rw [toInt_max_sub_one, toInt_max]; rfl
  case size =>
    exact ⟨toInt_rowsPerPage perPage, Int64.le_iff_toInt_le.mpr (one_le_rowsPerPage perPage)⟩
  case offset =>
    exact ⟨toInt_rowsBefore page perPage,
      Int64.le_iff_toInt_le.mpr (rowsBefore_nonneg page perPage)⟩
  case written =>
    intro hselect front limited bounded whole
    have hvalues (statement : Statement) :
        (b.dialect.compile statement).values = statement.parameters := by
      rw [Sql.Dialect.compile, Sql.compileAfter_eq, Sql.Spelling.values_template, List.nil_append]
    refine ⟨Sql.compileAfter_paginate b.dialect [] hselect page perPage, ?_⟩
    rw [hvalues]
    exact (hvalues _).trans (Sql.parameters_paginate hselect page perPage)
  case next =>
    intro next hpage hlt
    have hle : page ≤ next := by
      rw [Int64.le_iff_toInt_le]
      exact (Int64.lt_iff_toInt_lt.mp hlt).le
    exact ⟨rowsBefore_mono perPage hle, toInt_rowsBefore_next perPage hpage⟩

/-- Posts of an author, and drafts, fifty of them behind the first five. -/
def postsAndDrafts : Builder :=
  (Builder.new .postgres ⟨"posts", none⟩).withStatement
    { source := .table ⟨"posts", none⟩
      wheres := [.ofTest .and (.compare "author" "=" (.int 7))]
      unions := [⟨false, .statement
        { source := .table ⟨"drafts", none⟩
          wheres := [.ofTest .and (.compare "author" "=" (.int 8))] }⟩]
      limit := some 50
      offset := some 5 }

theorem page_windows_tile_postsAndDrafts :
    postsAndDrafts.statement.action = .select ∧
      (∃ paged, (Edit.paginate 3 10).apply postsAndDrafts = .ok paged ∧
        paged.compile.sql = "SELECT * FROM posts WHERE author = $1 LIMIT $2 OFFSET $3 UNION " ++
          "SELECT * FROM drafts WHERE author = $4" ∧
        paged.compile.values = [.int 7, .int 10, .int 20, .int 8]) ∧
      (rowsBefore 4 10).toInt = (rowsBefore 3 10).toInt + (rowsPerPage 10).toInt := by
  obtain ⟨hpaged, -, -, -, hwritten, hnext⟩ := page_windows_tile postsAndDrafts 3 10
  obtain ⟨hcompiled, hvalues⟩ := hwritten rfl
  refine ⟨rfl, ⟨_, hpaged, ?sql, ?values⟩, ?tiled⟩
  case sql =>
    rw [hcompiled]
    decide +kernel
  case values =>
    rw [hvalues]
    rfl
  case tiled => exact (hnext 4 (by decide) (by decide)).2 (by decide) (by decide)

end BoundSql
