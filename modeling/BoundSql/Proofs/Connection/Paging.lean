import BoundSql.Proofs.Connection.Stream
import BoundSql.Proofs.Parameters
import Mathlib.Algebra.Order.Floor.Div

/-!
# Paging

From a table of which every window is answered as it stands there, a stream of pages gives the
table cut into pieces, and then no rows; a stream of rows gives its rows. Each asks once for every
piece and once more. `streams_fetch_once` says so, and before it for whatever is answered what the
streams give and ask.
-/

namespace BoundSql

/-! ## Pages of a table -/

/-- A list cut into pages of `size` items, the last of which may have fewer. -/
def pagesOf {α : Type} (size : Nat) (items : List α) : List (List α) :=
  (List.range (items.length ⌈/⌉ size)).map fun index => (items.drop (size * index)).take size

theorem length_pagesOf {α : Type} (size : Nat) (items : List α) :
    (pagesOf size items).length = items.length ⌈/⌉ size := by
  simp [pagesOf]

section
variable {α : Type} {size : Nat} (hsize : 0 < size) (items : List α)
include hsize

/-- There are enough pages for all items. -/
theorem length_le_mul_length_pagesOf : items.length ≤ size * (pagesOf size items).length := by
  rw [length_pagesOf]
  exact (ceilDiv_le_iff_le_mul hsize).mp le_rfl

theorem flatten_pagesOf : (pagesOf size items).flatten = items := by
  have htake : ∀ n, ((List.range n).map fun index =>
      (items.drop (size * index)).take size).flatten = items.take (size * n) := by
    intro n
    induction n with
    | zero => simp
    | succ n ih => simp [List.range_succ, ih, Nat.mul_succ, List.take_add]
  have hall := length_le_mul_length_pagesOf hsize items
  rw [length_pagesOf] at hall
  rw [pagesOf, htake, List.take_of_length_le hall]

variable {items} in
theorem ne_nil_of_mem_pagesOf {page : List α} (h : page ∈ pagesOf size items) : page ≠ [] := by
  obtain ⟨index, hindex, rfl⟩ := List.mem_map.mp h
  have hrest : size * index < items.length := by
    by_contra hle
    have hceil := (ceilDiv_le_iff_le_mul hsize).mpr (not_lt.mp hle)
    exact absurd (List.mem_range.mp hindex) (not_lt.mpr hceil)
  intro hnil
  have hlength := congrArg List.length hnil
  simp only [List.length_take, List.length_drop, List.length_nil] at hlength
  omega

end

theorem pagesOf_one {α : Type} (items : List α) : pagesOf 1 items = items.map ([·]) := by
  apply List.ext_getElem
  · rw [length_pagesOf, List.length_map, Nat.ceilDiv_eq_add_pred_div, Nat.add_sub_cancel, Nat.div_one]
  · intro index hpage hitem
    have hindex : index < items.length := by simpa using hitem
    simp [pagesOf, List.take_one, List.getElem?_eq_getElem hindex]

/-! ## Offsets -/

/-- The first `n` pages begin where a number of 64 bits can say. -/
def PagesFit (size : Int64) (n : Nat) : Prop :=
  ∀ index < n, size.toInt * index ≤ Int64.maxValue.toInt

theorem toInt_pos {size : Int64} (hsize : 0 < size) : 0 < size.toInt :=
  Int64.lt_iff_toInt_lt.mp hsize

theorem toNatClampNeg_pos {size : Int64} (hsize : 0 < size) : 0 < size.toNatClampNeg := by
  have hpos := toInt_pos hsize
  rw [← Int64.toNat_toInt]
  omega

theorem mul_index_nonneg {size : Int64} (hsize : 0 < size) (index : Nat) :
    0 ≤ size.toInt * index :=
  Int.mul_nonneg (toInt_pos hsize).le (Int.natCast_nonneg index)

theorem toInt_pageOffset {size : Int64} (hsize : 0 < size) {index : Nat}
    (h : size.toInt * index ≤ Int64.maxValue.toInt) :
    (pageOffset size index).toInt = size.toInt * index := by
  have hnonneg := mul_index_nonneg hsize index
  rw [Int64.toInt_maxValue] at h
  exact Int64.toInt_ofInt_of_le (by omega) (by omega)

/-! ## A table that is served -/

/-- Every window of a builder is answered as it stands in a table. -/
def Serves (answer : Answering) (b : Builder) (rows : List Row) : Prop :=
  ∀ asked limit offset, 0 < limit → 0 ≤ offset →
    answer asked (b.window limit offset) =
      .ok ((rows.drop offset.toNatClampNeg).take limit.toNatClampNeg)

section
variable {answer : Answering} {b : Builder} {rows : List Row} {size : Int64} {n : Nat}

/-- A page of a builder is answered with the page of the table. -/
theorem Serves.answer_page (h : Serves answer b rows) (hsize : 0 < size) {index : Nat}
    (hfit : size.toInt * index ≤ Int64.maxValue.toInt) (asked : List Request) :
    answer asked (b.window size (pageOffset size index)) =
      .ok ((rows.drop (size.toNatClampNeg * index)).take size.toNatClampNeg) := by
  have hoffset := toInt_pageOffset hsize hfit
  have hnonneg : 0 ≤ pageOffset size index := by
    rw [Int64.le_iff_toInt_le, hoffset]
    exact mul_index_nonneg hsize index
  have hskip : (pageOffset size index).toNatClampNeg = size.toNatClampNeg * index := by
    rw [← Int64.toNat_toInt, hoffset,
      Int.toNat_mul (toInt_pos hsize).le (Int.natCast_nonneg index), Int.toNat_natCast,
      Int64.toNat_toInt]
  rw [h asked size _ hsize hnonneg, hskip]

/-- What a stream of pages sees of a table: its pages, and then no rows. -/
theorem Serves.throughFirst_eq (h : Serves answer b rows) (hsize : 0 < size)
    (hfit : PagesFit size ((pagesOf size.toNatClampNeg rows).length + 1))
    (hn : (pagesOf size.toNatClampNeg rows).length < n) :
    throughFirst endsStream (answersTo answer [] (b.pageRequests size n)) =
      (pagesOf size.toNatClampNeg rows).map .ok ++ [.ok []] := by
  have hpos : 0 < size.toNatClampNeg := toNatClampNeg_pos hsize
  have hopen : ∀ given ∈ (pagesOf size.toNatClampNeg rows).map .ok, endsStream given = false := by
    intro given hgiven
    obtain ⟨page, hpage, rfl⟩ := List.mem_map.mp hgiven
    simpa [endsStream] using ne_nil_of_mem_pagesOf hpos hpage
  have hlast : rows.drop (size.toNatClampNeg * (pagesOf size.toNatClampNeg rows).length) = [] :=
    List.drop_eq_nil_of_le (length_le_mul_length_pagesOf hpos rows)
  have hanswers :
      answersTo answer [] (b.pageRequests size ((pagesOf size.toNatClampNeg rows).length + 1)) =
        (pagesOf size.toNatClampNeg rows).map .ok ++ [.ok []] := by
    rw [Builder.pageRequests, answersTo_map fun index hindex =>
        h.answer_page hsize (hfit index (List.mem_range.mp hindex)),
      List.range_succ, List.map_append, List.map_singleton, hlast, List.take_nil]
    simp [pagesOf]
  -- Behind the requests for the pages and for no rows, whatever is answered is not seen.
  obtain ⟨more, rfl⟩ := Nat.exists_eq_add_of_le (Nat.succ_le_of_lt hn)
  rw [Nat.succ_eq_add_one, Builder.pageRequests_add, answersTo_append, hanswers,
    List.append_assoc, List.singleton_append, throughFirst_append_cons hopen rfl]

end

/-- The rows of pages of one row are the rows of the table, and no rows give no item. -/
theorem filterMap_rowItem? (rows : List Row) :
    ((pagesOf 1 rows).map Except.ok ++ [Except.ok []]).filterMap rowItem? = rows.map .ok := by
  rw [pagesOf_one]
  induction rows with
  | nil => rfl
  | cons row rows ih => simpa [rowItem?] using ih

section
variable {answer : Answering} {b : Builder} {rows : List Row} {size : Int64} {n : Nat}

theorem Serves.pulls_pages (h : Serves answer b rows) (hsize : 0 < size)
    (hfit : PagesFit size ((pagesOf size.toNatClampNeg rows).length + 1))
    (hn : (pagesOf size.toNatClampNeg rows).length + 1 < n) :
    (b.pager size 0).pulls (Pager.pullPage (.answering answer)) n =
      (⟨(pagesOf size.toNatClampNeg rows).map .ok ++ [.ok []], true⟩,
        b.pageRequests size ((pagesOf size.toNatClampNeg rows).length + 1)) := by
  have hpulls := (asksForPages_pullPage answer b size).pulls_eq n
  simp only [h.throughFirst_eq hsize hfit (Nat.lt_of_succ_lt hn), List.filterMap_some,
    List.length_append, List.length_map, List.length_singleton, hn, decide_true] at hpulls
  exact hpulls

theorem Serves.pulls_rows (h : Serves answer b rows) (hfit : PagesFit 1 (rows.length + 1))
    (hn : rows.length < n) :
    b.eachRow.pulls (Pager.pullRow (.answering answer)) n =
      (⟨rows.map .ok, true⟩, b.pageRequests 1 (rows.length + 1)) := by
  have hone : (1 : Int64).toNatClampNeg = 1 := rfl
  have hpages : (pagesOf 1 rows).length = rows.length := by rw [pagesOf_one, List.length_map]
  have hpos : (0 : Int64) < 1 := by decide
  have hcame : throughFirst endsStream (answersTo answer [] (b.pageRequests 1 n)) =
      (pagesOf 1 rows).map .ok ++ [.ok []] :=
    h.throughFirst_eq hpos (by rwa [hone, hpages]) (by rwa [hone, hpages])
  have hpulls := (asksForPages_pullRow answer b 1).pulls_eq n
  simp only [hcame, filterMap_rowItem?, List.length_append, List.length_map, hpages,
    List.length_singleton, hn, decide_true] at hpulls
  exact hpulls

/-- If the pages of a table have their offsets, so have its rows. -/
theorem PagesFit.ofRows (hsize : 0 < size)
    (h : PagesFit size ((pagesOf size.toNatClampNeg rows).length + 1)) :
    PagesFit 1 (rows.length + 1) := by
  intro index hindex
  have hall := length_le_mul_length_pagesOf (toNatClampNeg_pos hsize) rows
  have hsizeInt : (size.toNatClampNeg : Int) = size.toInt := by
    rw [← Int64.toNat_toInt]
    exact Int.toNat_of_nonneg (toInt_pos hsize).le
  calc (1 : Int64).toInt * (index : Int)
      = index := Int.one_mul _
    _ ≤ rows.length := by omega
    _ ≤ (size.toNatClampNeg * (pagesOf size.toNatClampNeg rows).length : Nat) := by omega
    _ = size.toInt * (pagesOf size.toNatClampNeg rows).length := by
      rw [Int.natCast_mul, hsizeInt]
    _ ≤ Int64.maxValue.toInt := h _ (Nat.lt_succ_self _)

end

/-! ## Streams -/

theorem Builder.pages_eq_ok (b : Builder) {size : Int64} (hsize : 0 < size) :
    b.pages size = .ok (b.pager size 0) := by
  unfold pages
  rw [if_neg (Int64.not_le.mpr hsize)]
  rfl

/-- Every pull asks for one page, and pulls go on up to the first error or empty page: what the
first `n` of them give, and what they ask, are the answers so far and the requests for them. Pages
of a table that is served are the table, once, and so are its rows. -/
theorem streams_fetch_once (b : Builder) (size : Int64) (hsize : 0 < size) :
    ∃ p, b.pages size = .ok p ∧
      (∀ (answer : Answering) (n : Nat),
        let came := throughFirst endsStream (answersTo answer [] (b.pageRequests size n))
        PagesFit size came.length →
          p.pulls (Pager.pullPage (.answering answer)) n =
              (⟨came, came.length < n⟩, b.pageRequests size came.length) ∧
            ∀ index < came.length, (pageOffset size index).toInt = size.toInt * index) ∧
      (∀ (answer : Answering) (n : Nat),
        let came := throughFirst endsStream (answersTo answer [] (b.pageRequests 1 n))
        let items := came.filterMap rowItem?
        PagesFit 1 came.length →
          b.eachRow.pulls (Pager.pullRow (.answering answer)) n =
              (⟨items, items.length < n⟩, b.pageRequests 1 came.length) ∧
            ∀ index < came.length, (pageOffset 1 index).toInt = index) ∧
      ∀ (answer : Answering) (rows : List Row),
        let pages := pagesOf size.toNatClampNeg rows
        Serves answer b rows → PagesFit size (pages.length + 1) →
          (∀ n, pages.length + 1 < n →
            p.pulls (Pager.pullPage (.answering answer)) n =
              (⟨pages.map .ok ++ [.ok []], true⟩, b.pageRequests size (pages.length + 1))) ∧
          (∀ n, rows.length < n →
            b.eachRow.pulls (Pager.pullRow (.answering answer)) n =
              (⟨rows.map .ok, true⟩, b.pageRequests 1 (rows.length + 1))) ∧
          pages.flatten = rows ∧ (∀ page ∈ pages, page ≠ []) ∧
          pages.length = rows.length ⌈/⌉ size.toNatClampNeg := by
  refine ⟨b.pager size 0, b.pages_eq_ok hsize, ?pages, ?rows, ?served⟩
  case pages =>
    intro answer n came hfit
    constructor
    · have hpulls := (asksForPages_pullPage answer b size).pulls_eq n
      simp only [List.filterMap_some] at hpulls
      exact hpulls
    · intro index hindex
      exact toInt_pageOffset hsize (hfit index hindex)
  case rows =>
    intro answer n came items hfit
    constructor
    · exact (asksForPages_pullRow answer b 1).pulls_eq n
    · intro index hindex
      have hoffset := toInt_pageOffset (by decide) (hfit index hindex)
      simpa using hoffset
  case served =>
    intro answer rows pages hserves hfit
    refine ⟨fun n hn => hserves.pulls_pages hsize hfit hn,
      fun n hn => hserves.pulls_rows (PagesFit.ofRows hsize hfit) hn, ?_, ?_, length_pagesOf _ _⟩
    · exact flatten_pagesOf (toNatClampNeg_pos hsize) rows
    · intro page hpage
      exact ne_nil_of_mem_pagesOf (toNatClampNeg_pos hsize) hpage

/-! ## A table of users -/

/-- A builder that selects users. -/
def users : Builder :=
  .new .postgres ⟨"users", none⟩

/-- The connection of a table, for requests whose parameters are bounds on rows alone. -/
def tableAnswer (rows : List Row) : Answering := fun _ request =>
  match request.statement.values with
  | [.int limit] => .ok (rows.take limit.toNatClampNeg)
  | [.int limit, .int offset] =>
    .ok ((rows.drop offset.toNatClampNeg).take limit.toNatClampNeg)
  | _ => .ok rows

theorem values_window_users (limit offset : Int64) :
    (users.window limit offset).statement.values =
      rowBoundParameters (some limit) ++ rowBoundParameters (some offset) := by
  have hcompile : ∀ s : Statement, (Sql.Dialect.postgres.compile s).values = s.parameters := by
    intro s
    rw [Sql.Dialect.compile, Sql.compileAfter_eq, Sql.Spelling.values_template, List.nil_append]
  exact (hcompile _).trans (List.append_nil _)

theorem serves_users (rows : List Row) : Serves (tableAnswer rows) users rows := by
  intro asked limit offset hlimit hoffset
  have hlimited : rowBoundParameters (some limit) = [.int limit] := by
    simp [rowBoundParameters, Option.filter, hlimit]
  by_cases hstart : offset = 0
  · -- The first window has no parameter for its offset.
    subst hstart
    have hskipped : rowBoundParameters (some 0) = [] := rfl
    simp only [tableAnswer, values_window_users, hlimited, hskipped, List.append_nil]
    rfl
  · have hskipped : rowBoundParameters (some offset) = [.int offset] := by
      have hpos : 0 < offset := Int64.lt_of_le_of_ne hoffset (Ne.symm hstart)
      simp [rowBoundParameters, Option.filter, hpos]
    simp only [tableAnswer, values_window_users, hlimited, hskipped, List.singleton_append]

/-- A user of a table. -/
def userRow (id : Int64) : Row :=
  ⟨[("id", .int id)]⟩

theorem streams_fetch_once_users :
    let answer := tableAnswer [userRow 1, userRow 2, userRow 3]
    ∃ p, users.pages 2 = .ok p ∧
      p.pulls (Pager.pullPage (.answering answer)) 5 =
        (⟨[.ok [userRow 1, userRow 2], .ok [userRow 3], .ok []], true⟩,
          [users.window 2 0, users.window 2 2, users.window 2 4]) ∧
      users.eachRow.pulls (Pager.pullRow (.answering answer)) 5 =
        (⟨[.ok (userRow 1), .ok (userRow 2), .ok (userRow 3)], true⟩,
          [users.window 1 0, users.window 1 1, users.window 1 2, users.window 1 3]) ∧
      p.pulls (Pager.pullPage (.answering fun _ _ => .error (.connection "reset"))) 5 =
        (⟨[.error (.connection "reset")], true⟩, [users.window 2 0]) := by
  intro answer
  obtain ⟨p, hp, hpages, -, htable⟩ := streams_fetch_once users 2 (by decide)
  have hfit : ∀ n ≤ 3, PagesFit 2 n := by
    intro n hn index hindex
    have hsize : (2 : Int64).toInt = 2 := rfl
    rw [hsize, Int64.toInt_maxValue]
    omega
  obtain ⟨hserved, hrows, -⟩ := htable answer _ (serves_users _) (hfit 3 (by decide))
  have hfailed := hpages (fun _ _ => .error (.connection "reset")) 5 (hfit 1 (by decide))
  exact ⟨p, hp, hserved 5 (by decide), hrows 5 (by decide), hfailed.1⟩

end BoundSql
