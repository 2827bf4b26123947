import BoundSql.Proofs.Reader.Formula
import BoundSql.Proofs.Parameters
import BoundSql.Proofs.Reader.Written

/-!
# What tests mean

A test is plain if it compares columns with each other or with integers, by an operator and with
names that a reader knows. `Test.holds` says what such a test means of a row whose columns hold
integers, and `Test.terms` are the formulas that its text consists of: one, or the two that `AND`
joins for a range.
-/

namespace BoundSql

open Sql

/-! ## Plain tests -/

/-- The names of a path. -/
def fieldPath (field : String) : List String :=
  (splitDots (Text.trimChars field.toList)).map .ofList

/-- Whether a field is a path of words, without a star. -/
def isPlainPath (field : String) : Bool :=
  (splitDots (Text.trimChars field.toList)).all isWord

namespace Test

/-- Whether a test compares columns with each other or with integers. -/
def isPlain : Test → Bool
  | .compare field op value =>
    isPlainPath field && (Comparison.ofText? (Text.trim op)).isSome && value.asInt?.isSome
  | .within field values _ => isPlainPath field && values.all (·.asInt?.isSome)
  | .null field _ => isPlainPath field
  | .between field low high _ _ =>
    isPlainPath field && low.asInt?.isSome && high.asInt?.isSome
  | .columns first op second =>
    isPlainPath first && (Comparison.ofText? (Text.trim op)).isSome && isPlainPath second
  | .raw _ => false
  | .datePart .. => false

/-- Whether a plain test is true of a row that has an integer in every column. -/
def holds (columns : List String → Int) : Test → Bool
  | .compare field op value =>
    match Comparison.ofText? (Text.trim op), value.asInt? with
    | some c, some n => c.holds (columns (fieldPath field)) n.toInt
    | _, _ => false
  | .within field values negated =>
    ((values.filterMap Value.asInt?).map Int64.toInt).contains (columns (fieldPath field)) ^^
      negated
  | .null _ negated => negated
  | .between field low high inclusive negated =>
    match low.asInt?, high.asInt? with
    | some low, some high =>
      let x := columns (fieldPath field)
      (if inclusive then low.toInt ≤ x && x ≤ high.toInt else low.toInt < x && x < high.toInt) ^^
        negated
    | _, _ => false
  | .columns first op second =>
    match Comparison.ofText? (Text.trim op) with
    | some c => c.holds (columns (fieldPath first)) (columns (fieldPath second))
    | none => false
  | .raw _ => false
  | .datePart .. => false

end Test

/-! ## The formulas of tests -/

/-- The column that a path names. -/
def Sql.Operand.ofField (field : String) : Operand :=
  match fieldPath field with
  | first :: others => .column first others
  | [] => .column "" []

/-- The formulas that the text of a test consists of, with `AND` between them. -/
def Test.terms : Test → List Formula
  | .compare field op value =>
    match Comparison.ofText? (Text.trim op) with
    | some c => [.compare (.ofField field) c (.value value)]
    | none => []
  | .within field values negated =>
    match values with
    | [] => [.isNull (.ofField field) negated]
    | v :: values => [.within (.ofField field) (.value v) (values.map .value) negated]
  | .null field negated => [.isNull (.ofField field) negated]
  | .between field low high inclusive negated =>
    let column := Operand.ofField field
    match negated, inclusive with
    | false, true =>
      [.compare column .atLeast (.value low), .compare column .atMost (.value high)]
    | false, false =>
      [.compare column .greater (.value low), .compare column .less (.value high)]
    | true, true =>
      [.or (.compare column .less (.value low)) (.compare column .greater (.value high))]
    | true, false =>
      [.or (.compare column .atMost (.value low)) (.compare column .atLeast (.value high))]
  | .columns first op second =>
    match Comparison.ofText? (Text.trim op) with
    | some c => [.compare (.ofField first) c (.ofField second)]
    | none => []
  | .raw _ => []
  | .datePart .. => []

section
variable (columns : List String → Int)

/-- Text has a first piece between its dots. -/
theorem exists_fieldPath (field : String) :
    ∃ first others, splitDots (Text.trimChars field.toList) = first :: others :=
  List.exists_cons_of_ne_nil (splitDots_ne_nil _)

@[simp] theorem eval?_ofField (field : String) :
    (Operand.ofField field).eval? columns = some (columns (fieldPath field)) := by
  obtain ⟨first, others, hpath⟩ := exists_fieldPath field
  simp only [Operand.ofField, fieldPath, hpath, List.map_cons, Operand.eval?]

@[simp] theorem eval?_value_int (n : Int64) :
    (Operand.value (.int n)).eval? columns = some n.toInt := rfl

theorem exists_int_of_asInt? {v : Value} (h : v.asInt?.isSome = true) : ∃ n, v = .int n := by
  cases v <;> simp [Value.asInt?] at h ⊢

theorem exists_ints_of_asInt? {vs : List Value} (h : vs.all (·.asInt?.isSome) = true) :
    ∃ ns : List Int64, vs = ns.map .int := by
  induction vs with
  | nil => exact ⟨[], rfl⟩
  | cons v vs ih =>
      obtain ⟨hv, hvs⟩ : v.asInt?.isSome = true ∧ vs.all (·.asInt?.isSome) = true := by
        simpa using h
      obtain ⟨n, rfl⟩ := exists_int_of_asInt? hv
      obtain ⟨ns, rfl⟩ := ih hvs
      exact ⟨n :: ns, rfl⟩

theorem mapM_eval?_ints (ns : List Int64) :
    ((ns.map Value.int).map Operand.value).mapM (Operand.eval? columns) =
      some (ns.map Int64.toInt) := by
  induction ns with
  | nil => rfl
  | cons n ns ih =>
      rw [List.map_cons, List.map_cons, List.mapM_cons, ih]
      rfl

theorem filterMap_asInt? (n : Int64) (ns : List Int64) :
    (Value.int n :: ns.map Value.int).filterMap Value.asInt? = n :: ns := by
  rw [← List.map_cons, List.filterMap_map]
  exact List.filterMap_some

/-- A list of integers says that the column holds one of them. -/
theorem eval?_within_ints (field : String) (n : Int64) (ns : List Int64) (negated : Bool) :
    (Formula.within (.ofField field) (.value (.int n)) ((ns.map Value.int).map .value)
        negated).eval? columns =
      some ((n.toInt :: ns.map Int64.toInt).contains (columns (fieldPath field)) ^^ negated) := by
  have hitems := mapM_eval?_ints columns (n :: ns)
  rw [List.map_cons, List.map_cons] at hitems
  rw [Formula.eval?, eval?_ofField, Option.bind_eq_bind, Option.bind_some, hitems]
  rfl

namespace Test

/-- A plain test consists of some formulas. -/
theorem terms_ne_nil {t : Test} (ht : t.isPlain = true) : t.terms ≠ [] := by
  cases t with
  | compare field op value =>
      simp only [isPlain, Bool.and_eq_true] at ht
      obtain ⟨c, hop⟩ := Comparison.exists_text ht.1.2
      simp [terms, hop, Comparison.ofText?_text]
  | raw f => cases ht
  | within field values negated => cases values <;> simp [terms]
  | null field negated => simp [terms]
  | between field low high inclusive negated =>
      cases negated <;> cases inclusive <;> simp [terms]
  | columns first op second =>
      simp only [isPlain, Bool.and_eq_true] at ht
      obtain ⟨c, hop⟩ := Comparison.exists_text ht.1.2
      simp [terms, hop, Comparison.ofText?_text]
  | datePart part field op value => cases ht

/-- The formulas of a plain test are true or false of every row, and all of them are true just
when the test holds. -/
theorem isTrue_terms {t : Test} (ht : t.isPlain = true) :
    (∀ f ∈ t.terms, (f.eval? columns).isSome) ∧
      t.terms.all (Formula.isTrue columns) = t.holds columns := by
  cases t with
  | compare field op value =>
      simp only [isPlain, Bool.and_eq_true] at ht
      obtain ⟨c, hop⟩ := Comparison.exists_text ht.1.2
      obtain ⟨n, rfl⟩ := exists_int_of_asInt? ht.2
      simp [terms, holds, hop, Comparison.ofText?_text, Formula.isTrue, Formula.eval?,
        Value.asInt?]
  | raw f => cases ht
  | within field values negated =>
      simp only [isPlain, Bool.and_eq_true] at ht
      obtain ⟨ns, rfl⟩ := exists_ints_of_asInt? ht.2
      cases ns with
      | nil => simp [terms, holds, Formula.isTrue, Formula.eval?]
      | cons n ns =>
          have htrue (b : Bool) : decide (some b = some true) = b := by cases b <;> rfl
          simp only [List.map_cons, terms, List.mem_singleton, forall_eq, Formula.isTrue,
            eval?_within_ints, List.all_cons, List.all_nil, Bool.and_true, Option.isSome_some,
            true_and, htrue, holds, filterMap_asInt?]
  | null field negated => simp [terms, holds, Formula.isTrue, Formula.eval?]
  | between field low high inclusive negated =>
      simp only [isPlain, Bool.and_eq_true] at ht
      obtain ⟨m, rfl⟩ := exists_int_of_asInt? ht.1.2
      obtain ⟨n, rfl⟩ := exists_int_of_asInt? ht.2
      have hle (x y : Int) : (!decide (x ≤ y)) = decide (y < x) := by simp [← decide_not]
      have hlt (x y : Int) : (!decide (x < y)) = decide (y ≤ x) := by simp [← decide_not]
      cases negated <;> cases inclusive <;>
        simp [terms, holds, Formula.isTrue, Formula.eval?, Value.asInt?, Comparison.holds, hle, hlt]
  | columns first op second =>
      simp only [isPlain, Bool.and_eq_true] at ht
      obtain ⟨c, hop⟩ := Comparison.exists_text ht.1.2
      simp [terms, holds, hop, Comparison.ofText?_text, Formula.isTrue, Formula.eval?]
  | datePart part field op value => cases ht

end Test

end

namespace Sql

open Template

/-! ## The tokens of tests -/

variable {dialect : DialectName} {values : List Value} {bound after : Nat}

@[simp] theorem tokens_value (v : Value) : (Operand.value v).tokens = [.value v] := rfl

/-- The first of some values that are bound from a position on is bound there. -/
theorem getElem?_of_bound {v : Value} {vs : List Value} (h : v :: vs <+: values.drop bound) :
    values[bound]? = some v := by
  obtain ⟨more, hmore⟩ := h
  rw [← Nat.add_zero bound, ← List.getElem?_drop, ← hmore]
  rfl

/-- Values behind others are bound behind them. -/
theorem prefix_behind (xs : List Value) {ys : List Value} (h : xs ++ ys <+: values.drop bound) :
    ys <+: values.drop (bound + xs.length) := by
  obtain ⟨more, hmore⟩ := h
  refine ⟨more, ?_⟩
  rw [← List.drop_drop, ← hmore, List.append_assoc, List.drop_left]

/-- A plain path is read as the column that it names. -/
theorem lexes_field {field : String} (hfield : isPlainPath field = true) :
    Lexes dialect values bound (identifierChars (convention dialect).quote field.toList) bound
      (Operand.ofField field).tokens := by
  have hpath := isPath_of_all_isWord (splitDots_ne_nil _) hfield
  obtain ⟨first, others, hparts⟩ := exists_fieldPath field
  rw [isPlainPath, hparts] at hfield
  have hlexes : Lexes dialect values bound _ bound _ := lexes_parts first others hfield
  rw [hparts] at hpath
  simp only [identifierChars, pathParts?, hparts, hpath, if_true, Operand.ofField, fieldPath,
    List.map_cons, Operand.tokens, List.map_map]
  exact hlexes

/-- A column and what it is compared with. -/
theorem lexes_compare {field : String} (hfield : isPlainPath field = true) (c : Comparison)
    {cs : List Char} {ts : List Token} (h : Lexes dialect values bound cs after ts) :
    Lexes dialect values bound
      (identifierChars (convention dialect).quote field.toList ++
        ' ' :: (c.text.toList ++ ' ' :: cs)) after
      ((Operand.ofField field).tokens ++ .symbol (.comparison c) :: ts) :=
  (lexes_field hfield).append_space ((lexes_comparison c).append_space h)

/-- The placeholders of a list, with commas between them. -/
theorem lexes_listed (v : Value) (vs : List Value) (h : v :: vs <+: values.drop bound) :
    Lexes dialect values bound
      ((listed hole (v :: vs)).write dialect.dialect.placeholder bound)
      (bound + (v :: vs).length)
      ([.symbol .comma].intercalate ((.value v :: vs.map .value).map Operand.tokens)) := by
  induction vs generalizing v bound with
  | nil => simpa [listed] using lexes_placeholder (getElem?_of_bound h)
  | cons w vs ih =>
      have hv : Lexes dialect values bound _ (bound + 1) _ :=
        lexes_placeholder (getElem?_of_bound h)
      have hlist := hv.append_comma (ih w (prefix_behind [v] h))
      have hlength : bound + 1 + (w :: vs).length = bound + (v :: w :: vs).length := by
        simp only [List.length_cons]
        omega
      rw [hlength] at hlist
      simpa [listed_cons_cons, write_append, List.intercalate_cons_cons] using hlist

theorem lexes_and : Lexes dialect values bound ['A', 'N', 'D'] bound [.symbol .and] :=
  lexes_keyword (by decide) rfl

theorem lexes_or : Lexes dialect values bound ['O', 'R'] bound [.symbol .or] :=
  lexes_keyword (by decide) rfl

theorem lexes_not : Lexes dialect values bound ['N', 'O', 'T'] bound [.symbol .not] :=
  lexes_keyword (by decide) rfl

theorem lexes_in : Lexes dialect values bound ['I', 'N'] bound [.symbol .within] :=
  lexes_keyword (by decide) rfl

theorem lexes_nullTest (negated : Bool) :
    Lexes dialect values bound (nullTest negated).toList bound
      (.symbol .is :: (negation negated ++ [Token.symbol .null])) := by
  have his : Lexes dialect values bound ['I', 'S'] bound [.symbol .is] :=
    lexes_keyword (by decide) rfl
  have hnull : Lexes dialect values bound ['N', 'U', 'L', 'L'] bound [.symbol .null] :=
    lexes_keyword (by decide) rfl
  cases negated with
  | false => exact his.append_space hnull
  | true => exact his.append_space (lexes_not.append_space hnull)

section
variable {s : Spelling} (hs : s.quote = (convention dialect).quote)
include hs

/-- A list that is not empty is read as one. -/
theorem lexes_within {field : String} (hfield : isPlainPath field = true) (v : Value)
    (vs : List Value) (negated : Bool) (hvalues : v :: vs <+: values.drop bound) :
    Lexes dialect values bound
      ((s.test (.within field (v :: vs) negated)).write dialect.dialect.placeholder bound)
      (bound + (v :: vs).length)
      (Formula.within (.ofField field) (.value v) (vs.map .value) negated).tokens := by
  have hcolumn : Lexes dialect values bound _ bound _ := lexes_field hfield
  have hlist : Lexes dialect values bound _ _ _ := (lexes_listed v vs hvalues).bracketed
  cases negated with
  | false =>
      simpa [Spelling.test, Spelling.identifier, hs, write_append, Formula.tokens, negation]
        using hcolumn.append_space (lexes_in.append_space hlist)
  | true =>
      simpa [Spelling.test, Spelling.identifier, hs, write_append, Formula.tokens, negation]
        using hcolumn.append_space (lexes_not.append_space (lexes_in.append_space hlist))

/-- A range is read as two comparisons, and what lies outside of it as two in brackets. -/
theorem lexes_between {field : String} (hfield : isPlainPath field = true) (low high : Value)
    (inclusive negated : Bool) (hvalues : [low, high] <+: values.drop bound) :
    Lexes dialect values bound
      ((s.test (.between field low high inclusive negated)).write dialect.dialect.placeholder
        bound) (bound + 1 + 1)
      ([.symbol .and].intercalate
        ((Test.between field low high inclusive negated).terms.map Formula.tokens)) := by
  have hlow : Lexes dialect values bound _ (bound + 1) _ :=
    lexes_placeholder (getElem?_of_bound hvalues)
  have hhigh : Lexes dialect values (bound + 1) _ (bound + 1 + 1) _ :=
    lexes_placeholder (getElem?_of_bound (prefix_behind [low] hvalues))
  have hrange (b c : Comparison) := (lexes_compare hfield b hlow).append_space
    (lexes_and.append_space (lexes_compare hfield c hhigh))
  have houtside (b c : Comparison) := ((lexes_compare hfield b hlow).append_space
    (lexes_or.append_space (lexes_compare hfield c hhigh))).bracketed
  cases negated with
  | false =>
      cases inclusive with
      | false =>
          simpa [Spelling.test, Spelling.identifier, hs, write_append, Test.terms,
            Formula.tokens, Comparison.text, List.intercalate_cons_cons]
            using hrange .greater .less
      | true =>
          simpa [Spelling.test, Spelling.identifier, hs, write_append, Test.terms,
            Formula.tokens, Comparison.text, List.intercalate_cons_cons]
            using hrange .atLeast .atMost
  | true =>
      cases inclusive with
      | false =>
          simpa [Spelling.test, Spelling.identifier, hs, write_append, Test.terms,
            Formula.tokens, Comparison.text] using houtside .atMost .atLeast
      | true =>
          simpa [Spelling.test, Spelling.identifier, hs, write_append, Test.terms,
            Formula.tokens, Comparison.text] using houtside .less .greater

/-- A plain test is read as its formulas with `AND` between them. -/
theorem lexes_test {t : Test} (ht : t.isPlain = true)
    (hvalues : t.parameters <+: values.drop bound) :
    Lexes dialect values bound ((s.test t).write dialect.dialect.placeholder bound)
      (bound + t.parameters.length)
      ([.symbol .and].intercalate (t.terms.map Formula.tokens)) := by
  cases t with
  | compare field op value =>
      simp only [Test.isPlain, Bool.and_eq_true] at ht
      obtain ⟨c, hop⟩ := Comparison.exists_text ht.1.2
      have hv : Lexes dialect values bound _ (bound + 1) _ :=
        lexes_placeholder (getElem?_of_bound hvalues)
      simpa [Spelling.test, Spelling.identifier, Spelling.operator, hs, hop, write_append,
        Test.parameters, Test.terms, Comparison.ofText?_text, Formula.tokens]
        using lexes_compare ht.1.1 c hv
  | raw f => cases ht
  | within field items negated =>
      simp only [Test.isPlain, Bool.and_eq_true] at ht
      cases items with
      | nil =>
          have hfield : Lexes dialect values bound _ bound _ := lexes_field ht.1
          simpa [Spelling.test, Spelling.identifier, hs, write_append, Test.parameters,
            Test.terms, Formula.tokens] using hfield.append_space (lexes_nullTest negated)
      | cons v vs =>
          simp only [Test.terms, List.map_singleton, List.intercalate_singleton]
          exact lexes_within hs ht.1 v vs negated hvalues
  | null field negated =>
      have hfield : Lexes dialect values bound _ bound _ := lexes_field ht
      simpa [Spelling.test, Spelling.identifier, hs, write_append, Test.parameters,
        Test.terms, Formula.tokens] using hfield.append_space (lexes_nullTest negated)
  | between field low high inclusive negated =>
      simp only [Test.isPlain, Bool.and_eq_true] at ht
      exact lexes_between hs ht.1.1 low high inclusive negated hvalues
  | columns first op second =>
      simp only [Test.isPlain, Bool.and_eq_true] at ht
      obtain ⟨c, hop⟩ := Comparison.exists_text ht.1.2
      have hsecond : Lexes dialect values bound _ bound _ := lexes_field ht.2
      simpa [Spelling.test, Spelling.identifier, Spelling.operator, hs, hop, write_append,
        Test.parameters, Test.terms, Comparison.ofText?_text, Formula.tokens]
        using lexes_compare ht.1.1 c hsecond
  | datePart part field op value => cases ht

end

end Sql

end BoundSql
