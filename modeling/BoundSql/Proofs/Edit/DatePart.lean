import BoundSql.Builder.Vocabulary
import BoundSql.Proofs.Calendar.Reading
import BoundSql.Proofs.Edit.Basic

/-!
# Parts of dates

A part of a date is compared with a number or with a day, and a day can be spelled in several ways.
What is bound is that part of the day, `DatePart.boundOn`, however the day is spelled:
`partValue_of_spells` takes the spellings apart, and `exists_partValue_eq_error_iff` says which
values are refused. The text of a moment is a spelling of its day only if it has no fraction of a
second.
-/

namespace BoundSql

open BoundSql.Builder (Filter component partValue)
open BoundSql.Calendar (Date DateTime Time)

namespace DatePart

/-- The number that a part of a day is; a whole date is none. -/
def numberOf? (d : Date) : DatePart → Option Int
  | date => none
  | day => some d.day
  | month => some d.month
  | year => some d.year

/-- The value that a part of a day is. -/
def boundOn (d : Date) : DatePart → Value
  | date => .date d
  | day => .int (.ofNat d.day)
  | month => .int (.ofNat d.month)
  | year => .int (.ofInt d.year)

/-- The values that spell a part of a day: the day, a moment of it, its text between blanks, and the
number that the part is. -/
inductive Spells (part : DatePart) (d : Date) : Value → Prop
  | date : Spells part d (.date d)
  | moment (time : Time) : Spells part d (.dateTime ⟨d, time⟩)
  | text {left right : String} (hleft : ∀ c ∈ left.toList, Text.isBlank c = true)
      (hright : ∀ c ∈ right.toList, Text.isBlank c = true) :
      Spells part d (.text (left ++ d.text ++ right))
  | number {n : Int64} (hn : part.numberOf? d = some n.toInt) : Spells part d (.int n)

end DatePart

/-! ## What is bound -/

section
variable {part : DatePart} {d : Date} {v : Value} {name : String} {low high : Int64}
  {ofDate : Date → Int64}

theorem component_of_asDate? (h : v.asDate? = some d) :
    component name low high ofDate v = .ok (ofDate d) := by
  cases v with
  | int n => cases h
  | _ => simp only [component, h]

theorem component_int {n : Int64} (hlow : low.toInt ≤ n.toInt) (hhigh : n.toInt ≤ high.toInt) :
    component name low high ofDate (.int n) = .ok n := by
  have hrange : low ≤ n ∧ n ≤ high :=
    ⟨Int64.le_iff_toInt_le.mpr hlow, Int64.le_iff_toInt_le.mpr hhigh⟩
  simp [component, hrange]

/-- Of a value that names a day the part of the day is bound. -/
theorem partValue_of_asDate? (h : v.asDate? = some d) :
    partValue part v = .ok (part.boundOn d) := by
  cases part with
  | date => simp only [partValue, h, DatePart.boundOn]
  | day | month | year =>
      rw [partValue, component_of_asDate? h]
      rfl

/-- The number that a part of a day is is bound as it is. -/
theorem partValue_of_numberOf? {n : Int64} (h : part.numberOf? d = some n.toInt) :
    partValue part (.int n) = .ok (part.boundOn d) := by
  have hmonth := d.month_bounds
  have hday := d.day_bounds
  have hone : (1 : Int64).toInt = 1 := rfl
  cases part with
  | date => cases h
  | day =>
      have hn : (d.day : Int) = n.toInt := Option.some.inj h
      have hlast : (31 : Int64).toInt = 31 := rfl
      rw [partValue, component_int (by omega) (by omega), DatePart.boundOn, ← Int64.ofInt_eq_ofNat,
        hn, n.ofInt_toInt]
      rfl
  | month =>
      have hn : (d.month : Int) = n.toInt := Option.some.inj h
      have hlast : (12 : Int64).toInt = 12 := rfl
      rw [partValue, component_int (by omega) (by omega), DatePart.boundOn, ← Int64.ofInt_eq_ofNat,
        hn, n.ofInt_toInt]
      rfl
  | year =>
      have hn : d.year = n.toInt := Option.some.inj h
      rw [partValue, component_int n.minValue_le_toInt n.toInt_le, DatePart.boundOn, hn,
        n.ofInt_toInt]
      rfl

theorem asDate?_text_surrounded {left right : String}
    (hleft : ∀ c ∈ left.toList, Text.isBlank c = true)
    (hright : ∀ c ∈ right.toList, Text.isBlank c = true) :
    (Value.text (left ++ d.text ++ right)).asDate? = some d := by
  have htext : left ++ d.text ++ right = .ofList (left.toList ++ d.chars ++ right.toList) :=
    String.toList_injective (by simp [Date.text])
  rw [Value.asDate?, htext, d.ofLooseText?_chars hleft hright]

/-- However a part of a day is spelled, the same value is bound. -/
theorem partValue_of_spells (h : part.Spells d v) : partValue part v = .ok (part.boundOn d) := by
  cases h with
  | date => exact partValue_of_asDate? rfl
  | moment time => exact partValue_of_asDate? rfl
  | text hleft hright => exact partValue_of_asDate? (asDate?_text_surrounded hleft hright)
  | number hn => exact partValue_of_numberOf? hn

/-! ## What is refused -/

theorem exists_component_eq_error_iff :
    (∃ cause, component name low high ofDate v = .error cause) ↔
      (∃ n, v = .int n ∧ ¬(low ≤ n ∧ n ≤ high)) ∨ v.asInt? = none ∧ v.asDate? = none := by
  cases v with
  | int n =>
      by_cases hrange : low ≤ n ∧ n ≤ high
      · simp [component, Value.asInt?, hrange]
      · have hrefused : (decide (low ≤ n) && decide (n ≤ high)) = false := by simpa using hrange
        refine iff_of_true ⟨.outOfRange name low high n, ?_⟩ (.inl ⟨n, rfl, hrange⟩)
        simp only [component, hrefused, Bool.false_eq_true, if_false]
  | text s =>
      cases hdate : (Value.text s).asDate? with
      | none => simp [component, Value.asInt?, hdate]
      | some d => simp [component, hdate]
  | _ => simp [component, Value.asInt?, Value.asDate?]

theorem exists_partValue_eq_error_iff :
    (∃ cause, partValue part v = .error cause) ↔
      match part with
      | .date => v.asDate? = none
      | .day => (∃ n, v = .int n ∧ ¬(1 ≤ n ∧ n ≤ 31)) ∨ v.asInt? = none ∧ v.asDate? = none
      | .month => (∃ n, v = .int n ∧ ¬(1 ≤ n ∧ n ≤ 12)) ∨ v.asInt? = none ∧ v.asDate? = none
      | .year => v.asInt? = none ∧ v.asDate? = none := by
  cases part with
  | date =>
      simp only [partValue]
      cases v.asDate? with
      | none => simp
      | some d => simp
  | day => exact exists_map_eq_error_iff.trans exists_component_eq_error_iff
  | month => exact exists_map_eq_error_iff.trans exists_component_eq_error_iff
  | year =>
      have hnone : ¬∃ n, v = .int n ∧ ¬(Int64.minValue ≤ n ∧ n ≤ Int64.maxValue) := by
        rintro ⟨n, -, hrange⟩
        exact hrange ⟨n.minValue_le, n.le_maxValue⟩
      exact exists_map_eq_error_iff.trans (exists_component_eq_error_iff.trans (or_iff_right hnone))

theorem exists_partValue_text_eq_error (part : DatePart) {s : String}
    (h : (Value.text s).asDate? = none) : ∃ cause, partValue part (.text s) = .error cause := by
  rw [exists_partValue_eq_error_iff]
  cases part with
  | date => exact h
  | day | month => exact .inr ⟨rfl, h⟩
  | year => exact ⟨rfl, h⟩

end

/-! ## Conditions on rows -/

namespace Edit

/-- A part of a date is compared with what is bound, or the edit is refused for the same cause. -/
theorem apply_whereDatePartCompare (part : DatePart) (joiner : Joiner) (field operator : String)
    (v : Value) (b : Builder) :
    (whereDatePartCompare part joiner field operator v).apply b =
      (partValue part v).map fun bound => b.withStatement
        (b.statement.addWhere joiner (.test (.datePart part field operator bound))) := by
  have hpredicate : (Filter.datePart part field operator v).predicate =
      partValue part v >>= fun bound => .ok (.test (.datePart part field operator bound)) := rfl
  have happly : (whereDatePartCompare part joiner field operator v).apply b =
      ((Filter.datePart part field operator v).predicate.map
        (b.statement.addWhere joiner)).map b.withStatement := rfl
  rw [happly, hpredicate]
  cases partValue part v with
  | error cause => rfl
  | ok bound => rfl

theorem apply_of_partValue {part : DatePart} {v bound : Value} (h : partValue part v = .ok bound)
    (joiner : Joiner) (field operator : String) (b : Builder) :
    (whereDatePartCompare part joiner field operator v).apply b = .ok (b.withStatement
      (b.statement.addWhere joiner (.test (.datePart part field operator bound)))) := by
  rw [apply_whereDatePartCompare, h]
  rfl

theorem apply_of_asDate? {v : Value} {d : Date} (h : v.asDate? = some d) (part : DatePart)
    (joiner : Joiner) (field operator : String) (b : Builder) :
    (whereDatePartCompare part joiner field operator v).apply b = .ok (b.withStatement
      (b.statement.addWhere joiner (.test (.datePart part field operator (part.boundOn d))))) :=
  apply_of_partValue (partValue_of_asDate? h) joiner field operator b

/-- A part of a day is compared with in the same way however it is spelled. What is no part of a
date in any spelling is refused, and the builder stays as it is. -/
theorem day_spellings_agree (joiner : Joiner) (field operator : String) (b : Builder) :
    (∀ part d v, DatePart.Spells part d v →
      (whereDatePartCompare part joiner field operator v).apply b = .ok (b.withStatement
        (b.statement.addWhere joiner (.test (.datePart part field operator (part.boundOn d)))))) ∧
    (∀ part v,
      (∃ cause, (whereDatePartCompare part joiner field operator v).apply b = .error cause) ↔
        match part with
        | .date => v.asDate? = none
        | .day => (∃ n, v = .int n ∧ ¬(1 ≤ n ∧ n ≤ 31)) ∨ v.asInt? = none ∧ v.asDate? = none
        | .month => (∃ n, v = .int n ∧ ¬(1 ≤ n ∧ n ≤ 12)) ∨ v.asInt? = none ∧ v.asDate? = none
        | .year => v.asInt? = none ∧ v.asDate? = none) ∧
    ∀ part v cause, (whereDatePartCompare part joiner field operator v).apply b = .error cause →
      (Step.edit (whereDatePartCompare part joiner field operator v)).run b = (b, some cause) := by
  refine ⟨?spelled, ?refused, fun part v cause => run_edit_error⟩
  case spelled =>
    intro part d v hv
    exact apply_of_partValue (partValue_of_spells hv) joiner field operator b
  case refused =>
    intro part v
    rw [← exists_partValue_eq_error_iff]
    simp only [apply_whereDatePartCompare]
    exact exists_map_eq_error_iff

/-- The year of a day long ago, as a text between blanks and as a number, and a day too late. -/
theorem day_spellings_agree_longAgo :
    let d : Date := ⟨-44, 3, 15, by decide⟩
    let b : Builder := .new .postgres ⟨"events", none⟩
    let wanted : Except Refusal Builder := .ok (b.withStatement (b.statement.addWhere .or
      (.test (.datePart .year "at" "<" (.int (-44))))))
    DatePart.Spells .year d (.text "\t-0044-03-15\u3000") ∧
      DatePart.Spells .year d (.int (-44)) ∧
      (whereDatePartCompare .year .or "at" "<" (.text "\t-0044-03-15\u3000")).apply b = wanted ∧
      (whereDatePartCompare .year .or "at" "<" (.int (-44))).apply b = wanted ∧
      ∃ cause, (whereDatePartCompare .day .or "at" "<" (.int 32)).apply b = .error cause ∧
        (Step.edit (whereDatePartCompare .day .or "at" "<" (.int 32))).run b = (b, some cause) := by
  intro d b wanted
  obtain ⟨hspelled, hrefused, hkept⟩ := day_spellings_agree .or "at" "<" b
  have hwritten : "\t" ++ d.text ++ "\u3000" = "\t-0044-03-15\u3000" := by decide
  have htext : DatePart.Spells .year d (.text "\t-0044-03-15\u3000") := by
    rw [← hwritten]
    exact .text (List.all_eq_true.mp rfl) (List.all_eq_true.mp rfl)
  have hnumber : DatePart.Spells .year d (.int (-44)) := .number rfl
  obtain ⟨cause, hcause⟩ := (hrefused .day (.int 32)).mpr (.inl ⟨32, rfl, by decide⟩)
  exact ⟨htext, hnumber, hspelled _ _ _ htext, hspelled _ _ _ hnumber, cause, hcause,
    hkept _ _ _ hcause⟩

/-! ## Texts of moments -/

theorem asDate?_text_moment {t : DateTime} {s : String} (hs : s = t.text ∨ s = t.isoText) :
    (Value.text s).asDate? = if t.time.fraction = 0 then some t.date else none := by
  obtain rfl | rfl := hs
  · exact t.ofLooseText?_text
  · exact t.ofLooseText?_isoText

/-- Both texts of a moment name its day, and every part of the day is compared with as it is with
that of the moment itself, just if the moment has no fraction of a second. -/
theorem moment_text_names_day_iff {t : DateTime} {s : String} (hs : s = t.text ∨ s = t.isoText) :
    ((Value.text s).asDate? = some t.date ↔ t.time.fraction = 0) ∧
    ∀ part joiner field operator b, ∃ b',
      (whereDatePartCompare part joiner field operator (.dateTime t)).apply b = .ok b' ∧
      ((whereDatePartCompare part joiner field operator (.text s)).apply b = .ok b' ↔
        t.time.fraction = 0) := by
  have hdate := asDate?_text_moment hs
  have hmoment : (Value.dateTime t).asDate? = some t.date := rfl
  by_cases hfraction : t.time.fraction = 0
  · rw [if_pos hfraction] at hdate
    refine ⟨iff_of_true hdate hfraction, fun part joiner field operator b => ?_⟩
    exact ⟨_, apply_of_asDate? hmoment part joiner field operator b,
      iff_of_true (apply_of_asDate? hdate part joiner field operator b) hfraction⟩
  · rw [if_neg hfraction] at hdate
    refine ⟨iff_of_false (by simp [hdate]) hfraction, fun part joiner field operator b => ?_⟩
    obtain ⟨cause, hcause⟩ := exists_partValue_text_eq_error part hdate
    refine ⟨_, apply_of_asDate? hmoment part joiner field operator b, iff_of_false ?_ hfraction⟩
    rw [apply_whereDatePartCompare, hcause]
    rintro ⟨⟩

/-- A leap second. -/
def leapSecond : DateTime :=
  ⟨⟨2016, 12, 31, by decide⟩, ⟨86399, 1000000000, by decide, by decide⟩⟩

theorem moment_text_names_day_iff_leapSecond :
    let s := "2016-12-31T23:59:60"
    let b : Builder := .new .postgres ⟨"events", none⟩
    s = leapSecond.isoText ∧ (Value.text s).asDate? = some leapSecond.date ∧
      ∃ b', (whereDatePartCompare .month .and "at" "=" (.dateTime leapSecond)).apply b = .ok b' ∧
        (whereDatePartCompare .month .and "at" "=" (.text s)).apply b = .ok b' := by
  intro s b
  have hs : s = leapSecond.isoText := by decide
  obtain ⟨hdate, hparts⟩ := moment_text_names_day_iff (.inr hs)
  obtain ⟨b', hmoment, htext⟩ := hparts .month .and "at" "=" b
  exact ⟨hs, hdate.mpr rfl, b', hmoment, htext.mpr rfl⟩

/-- A moment half a second past a full one. -/
def halfPast : DateTime :=
  ⟨⟨2024, 2, 29, by decide⟩, ⟨49500, 500000000, by decide, by decide⟩⟩

/-- The texts of a moment with a fraction of a second name no day. -/
theorem halfPast_text_names_no_day :
    halfPast.text = "2024-02-29 13:45:00.500" ∧ (Value.text halfPast.text).asDate? = none ∧
      halfPast.isoText = "2024-02-29T13:45:00.500" ∧
      (Value.text halfPast.isoText).asDate? = none := by
  refine ⟨by decide, ?_, by decide, ?_⟩
  · exact asDate?_text_moment (.inl rfl)
  · exact asDate?_text_moment (.inr rfl)

end Edit

end BoundSql
