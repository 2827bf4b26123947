import BoundSql.Proofs.Template.Basic
import BoundSql.Sql.Clause

/-!
# Templates of clauses

The templates of fragments and of the clauses that hold no nested statement. A template depends on
the spelling alone and not on how a placeholder looks. Each definition is followed by the
statement that its printer prints it.
-/

namespace BoundSql.Sql

namespace Template

/-! ## Fragments -/

/-- A marker whose digits are known: a hole if there is a value at that position. -/
def marker (values : List Value) (digits : List Char) : Template :=
  match values[Text.digitsValue digits]? with
  | some v => hole v
  | none => chars (openBrace :: digits ++ [closeBrace])

/-- The template of the rest of a signature. -/
def scan (values : List Value) : (pending : Option (List Char)) → List Char → Template
  | none, [] => []
  | some digits, [] => chars (openBrace :: digits)
  | none, c :: rest =>
    if c = openBrace then scan values (some []) rest else chars [c] ++ scan values none rest
  | some digits, c :: rest =>
    if Text.isDigit c then scan values (some (digits ++ [c])) rest
    else if c = closeBrace && !digits.isEmpty then
      marker values digits ++ scan values none rest
    else if c = openBrace then
      chars (openBrace :: digits) ++ scan values (some []) rest
    else chars (openBrace :: digits ++ [c]) ++ scan values none rest

/-- The text of a fragment with a hole for every marker that has a value. -/
def fragment (f : Fragment) : Template :=
  scan f.values none f.signature.toList

end Template

open Template

variable (d : Dialect)

theorem print_marker (values : List Value) (digits : List Char) :
    (marker values digits).print d.placeholder = d.marker values digits := by
  cases h : values[Text.digitsValue digits]? with
  | none => simp only [marker, Dialect.marker, h, print_chars]
  | some v => simp only [marker, Dialect.marker, h, print_hole]

/-- What is written already stands before the template of the rest. -/
theorem scan_eq (values : List Value) (written : String) (pending : Option (List Char))
    (cs : List Char) :
    d.scan values written pending cs =
      (written ++ ·) <$> (scan values pending cs).print d.placeholder := by
  have print_after (cs : List Char) (t : Template) : (chars cs ++ t).print d.placeholder =
      (String.ofList cs ++ ·) <$> t.print d.placeholder := by
    simp [print_append, print_chars]
  induction cs generalizing written pending with
  | nil =>
      cases pending with
      | none => simp [Dialect.scan, scan, print_nil]
      | some digits => simp [Dialect.scan, scan, print_chars]
  | cons c rest ih =>
      cases pending with
      | none =>
          simp only [Dialect.scan, scan]
          split
          · exact ih _ _
          · rw [ih, print_after]
            simp [← String.append_singleton, String.append_assoc]
      | some digits =>
          simp only [Dialect.scan, scan]
          split
          · exact ih _ _
          · split
            · simp [ih, print_append, print_marker, String.append_assoc]
            · split <;> rw [ih, print_after] <;> simp [String.append_assoc]

theorem print_fragment (f : Fragment) : (fragment f).print d.placeholder = d.fill f := by
  simp [fragment, Dialect.fill, scan_eq]

/-! ## Joins -/

namespace Spelling

/-- What is joined. -/
def joinTarget (s : Spelling) : JoinTarget → Template
  | .table t => text (s.table t.name t.asName)
  | .raw f => fragment f

/-- The condition of a join with the source that goes by `own`. -/
def joinOn (s : Spelling) (own : String) (target : JoinTarget) : JoinOn → Template
  | .key name => text (s.joinedColumn target name ++ " = " ++ s.qualify own name)
  | .columns local_ op joined =>
    text (s.joinedColumn target joined ++ " " ++ s.operator op ++ " " ++ s.qualify own local_)
  | .raw f => fragment f

/-- A join with the source that goes by `own`. -/
def join (s : Spelling) (own : String) (j : Join) : Template :=
  text (joinKeyword j.kind ++ " ") ++ s.joinTarget j.target ++
    match j.on with
    | none => []
    | some on => text " ON " ++ s.joinOn own j.target on

/-- The joins of a source, each behind a blank. -/
def joins (s : Spelling) (source : Source) : List Join → Template
  | [] => []
  | j :: rest => text " " ++ s.join (s.sourceReference source) j ++ joins s source rest

end Spelling

theorem print_joinTarget (target : JoinTarget) :
    (d.toSpelling.joinTarget target).print d.placeholder = d.joinTarget target := by
  cases target with
  | table t => exact print_text _ _
  | raw f => exact print_fragment d f

theorem print_joinOn (own : String) (target : JoinTarget) (on : JoinOn) :
    (d.toSpelling.joinOn own target on).print d.placeholder = d.joinOn own target on := by
  cases on with
  | key name => exact print_text _ _
  | columns own op joined => exact print_text _ _
  | raw f => exact print_fragment d f

theorem print_join (own : String) (j : Join) :
    (d.toSpelling.join own j).print d.placeholder = d.join own j := by
  obtain ⟨kind, target, on⟩ := j
  cases on with
  | none =>
      simp only [Spelling.join, Dialect.join, List.append_nil, print_append, print_text,
        print_joinTarget, pure_bind]
  | some on =>
      simp [Spelling.join, Dialect.join, print_append, print_text, print_joinTarget,
        print_joinOn, String.append_assoc]

theorem print_joins (source : Source) (joins : List Join) :
    (d.toSpelling.joins source joins).print d.placeholder = d.joins source joins := by
  induction joins with
  | nil => exact print_nil _
  | cons j rest ih =>
      simp [Spelling.joins, Dialect.joins, print_append, print_text, print_join, ih,
        String.append_assoc]

/-! ## Conditions, groups and orders -/

namespace Spelling

/-- A comparison of columns and values. -/
def test (s : Spelling) : Test → Template
  | .compare field op value =>
    text (s.identifier field ++ " " ++ s.operator op ++ " ") ++ hole value
  | .raw f => fragment f
  | .within field values negated =>
    if values.isEmpty then text (s.identifier field ++ " " ++ nullTest negated)
    else
      text (s.identifier field ++ (if negated then " NOT IN (" else " IN (")) ++
        listed hole values ++ text ")"
  | .null field negated => text (s.identifier field ++ " " ++ nullTest negated)
  | .between field low high inclusive negated =>
    let column := s.identifier field
    match negated, inclusive with
    | false, true =>
      text (column ++ " >= ") ++ hole low ++ text (" AND " ++ column ++ " <= ") ++ hole high
    | false, false =>
      text (column ++ " > ") ++ hole low ++ text (" AND " ++ column ++ " < ") ++ hole high
    | true, true =>
      text ("(" ++ column ++ " < ") ++ hole low ++ text (" OR " ++ column ++ " > ") ++
        hole high ++ text ")"
    | true, false =>
      text ("(" ++ column ++ " <= ") ++ hole low ++ text (" OR " ++ column ++ " >= ") ++
        hole high ++ text ")"
  | .columns first op second =>
    text (s.identifier first ++ " " ++ s.operator op ++ " " ++ s.identifier second)
  | .datePart part field op value =>
    text (s.datePartOf part field ++ " " ++ s.operator op ++ " ") ++ hole value

/-- An entry of the grouping. -/
def group (s : Spelling) : Group → Template
  | .field name => text (s.identifier name)
  | .raw f => fragment f

/-- An entry of the ordering. -/
def order (s : Spelling) : Order → Template
  | .field name ascending => text (s.identifier name ++ (if ascending then " ASC" else " DESC"))
  | .raw f => fragment f
  | .random => text s.randomOrder

/-- A bound on the number of rows; only a positive one is written. -/
def rowBound (keyword : String) : Option Int64 → Template
  | some n => Template.clause (0 < n) keyword (hole (.int n))
  | none => []

/-- The grouping, and behind it the conditions on groups. -/
def grouping (s : Spelling) (groups : List Group) (hasHavings : Bool) (havings : Template) :
    Template :=
  Template.clause (!groups.isEmpty) " GROUP BY "
    (listed s.group groups ++ Template.clause hasHavings " HAVING " havings)

/-- The ordering and the bounds on the number of rows. -/
def ordering (s : Spelling) (orders : List Order) (limit offset : Option Int64) : Template :=
  Template.clause (!orders.isEmpty) " ORDER BY " (listed s.order orders) ++
    rowBound " LIMIT " limit ++ rowBound " OFFSET " offset

end Spelling

theorem print_test (t : Test) :
    (d.toSpelling.test t).print d.placeholder = d.test t := by
  cases t with
  | compare field op value =>
      simp only [Spelling.test, Dialect.test, print_append, print_text, print_hole, pure_bind]
  | raw f => exact print_fragment d f
  | within field values negated =>
      cases values with
      | nil => exact print_text _ _
      | cons v values =>
          simp [Spelling.test, Dialect.test, print_append, print_text, print_listed, print_hole,
            String.append_assoc]
  | null field negated => exact print_text _ _
  | between field low high inclusive negated =>
      cases negated <;> cases inclusive <;>
        simp [Spelling.test, Dialect.test, print_append, print_text, print_hole,
          String.append_assoc]
  | columns first op second => exact print_text _ _
  | datePart part field op value =>
      simp only [Spelling.test, Dialect.test, print_append, print_text, print_hole, pure_bind]

theorem print_group (g : Group) :
    (d.toSpelling.group g).print d.placeholder = d.group g := by
  cases g with
  | field name => exact print_text _ _
  | raw f => exact print_fragment d f

theorem print_order (o : Order) :
    (d.toSpelling.order o).print d.placeholder = d.order o := by
  cases o with
  | field name ascending => exact print_text _ _
  | raw f => exact print_fragment d f
  | random => exact print_text _ _

theorem print_rowBound (keyword : String) (rows : Option Int64) :
    (Spelling.rowBound keyword rows).print d.placeholder = d.rowBound keyword rows := by
  cases rows with
  | none => exact print_nil _
  | some n => simp only [Spelling.rowBound, Dialect.rowBound, print_clause, print_hole]

theorem print_grouping (groups : List Group) (hasHavings : Bool) (havings : Template) :
    (d.toSpelling.grouping groups hasHavings havings).print d.placeholder =
      d.grouping groups hasHavings (havings.print d.placeholder) := by
  simp only [Spelling.grouping, Dialect.grouping, print_clause, print_append, print_listed,
    print_group]

theorem print_ordering (orders : List Order) (limit offset : Option Int64) :
    (d.toSpelling.ordering orders limit offset).print d.placeholder =
      d.ordering orders limit offset := by
  simp only [Spelling.ordering, Dialect.ordering, print_append, print_clause, print_listed,
    print_order, print_rowBound, bind_assoc, pure_bind]

/-! ## Insertions and updates -/

namespace Spelling

/-- The cells of one row in parentheses. -/
def rowCells (cells : List Value) : Template :=
  text "(" ++ listed hole cells ++ text ")"

/-- An insertion. -/
def insertion (s : Spelling) (source : Source) : InsertBody → Template
  | .rows fields rows =>
    text ("INSERT INTO " ++ s.target source ++ " (" ++
      String.intercalate ", " (fields.map s.identifier) ++ ") VALUES ") ++ listed rowCells rows
  | .raw f => text ("INSERT INTO " ++ s.target source ++ " ") ++ fragment f

/-- One column that is set. -/
def assignment (s : Spelling) : Assignment → Template
  | .set field value => text (s.identifier field ++ " = ") ++ hole value
  | .step field negative amount =>
    let column := s.identifier field
    text (column ++ " = " ++ column ++ (if negative then " - " else " + ")) ++ hole amount

/-- What an update sets. -/
def assignments (s : Spelling) : UpdateBody → Template
  | .assignments assignments => listed s.assignment assignments
  | .raw f => fragment f

end Spelling

theorem print_rowCells (cells : List Value) :
    (Spelling.rowCells cells).print d.placeholder = d.rowCells cells := by
  simp only [Spelling.rowCells, Dialect.rowCells, print_append, print_text, print_listed,
    print_hole, bind_assoc, pure_bind]

theorem print_insertion (source : Source) (body : InsertBody) :
    (d.toSpelling.insertion source body).print d.placeholder = d.insertion source body := by
  cases body with
  | rows fields rows =>
      simp only [Spelling.insertion, Dialect.insertion, print_append, print_text, print_listed,
        print_rowCells, pure_bind]
  | raw f =>
      simp only [Spelling.insertion, Dialect.insertion, print_append, print_text, print_fragment,
        pure_bind]

theorem print_assignment (a : Assignment) :
    (d.toSpelling.assignment a).print d.placeholder = d.assignment a := by
  cases a with
  | set field value =>
      simp only [Spelling.assignment, Dialect.assignment, print_append, print_text, print_hole,
        pure_bind]
  | step field negative amount =>
      simp only [Spelling.assignment, Dialect.assignment, print_append, print_text, print_hole,
        pure_bind]

theorem print_assignments (body : UpdateBody) :
    (d.toSpelling.assignments body).print d.placeholder = d.assignments body := by
  cases body with
  | assignments assignments =>
      simp only [Spelling.assignments, Dialect.assignments, print_listed, print_assignment]
  | raw f => exact print_fragment d f

end BoundSql.Sql
