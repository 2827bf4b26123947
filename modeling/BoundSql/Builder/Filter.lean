import BoundSql.Error
import BoundSql.Statement.Basic

/-!
# Filters

A `Filter` is what a caller asks of rows. Most become a predicate as they are. A list that comes
as one value must be a list, and a part of a date must be a number in its range or something that
names a day; both are refused otherwise.
-/

namespace BoundSql.Builder

open BoundSql.Calendar (Date)

/-- A condition on rows as a caller states it. -/
inductive Filter where
  | compare (field operator : String) (value : Value)
  | raw (fragment : Fragment)
  | within (field : String) (values : List Value) (negated : Bool)
  /-- The list comes as one value. -/
  | withinValue (field : String) (values : Value) (negated : Bool)
  | between (field : String) (low high : Value) (inclusive negated : Bool)
  | columns (first operator second : String)
  | null (field : String) (negated : Bool)
  | datePart (part : DatePart) (field operator : String) (value : Value)
  | hasRows (source : Subquery) (negated : Bool)

/-- A number in its range, or the number that belongs to the day that a value names. -/
def component (part : String) (low high : Int64) (ofDate : Date → Int64) (v : Value) :
    Except Refusal Int64 :=
  match v with
  | .int n => if low ≤ n && n ≤ high then .ok n else .error (.outOfRange part low high n)
  | v => match v.asDate? with
    | some d => .ok (ofDate d)
    | none => .error (.notAPart part v.kind)

/-- What is bound when a part of a date is compared with a value. -/
def partValue (part : DatePart) (v : Value) : Except Refusal Value :=
  match part with
  | .date => match v.asDate? with
    | some d => .ok (.date d)
    | none => .error (.notADate v.kind)
  | .day => (component "day" 1 31 (fun d => .ofNat d.day) v).map .int
  | .month => (component "month" 1 12 (fun d => .ofNat d.month) v).map .int
  | .year =>
    (component "year" Int64.minValue Int64.maxValue (fun d => .ofInt d.year) v).map .int

/-- The items of a value that is a list. -/
def listItems : Value → Except Refusal (List Value)
  | .list items => .ok items
  | v => .error (.notAList v.kind)

/-- The predicate that a filter stands for, or why it is refused. -/
def Filter.predicate : Filter → Except Refusal Predicate
  | .compare field operator value => .ok (.test (.compare field operator value))
  | .raw fragment => .ok (.test (.raw fragment))
  | .within field values negated => .ok (.test (.within field values negated))
  | .withinValue field values negated => do
    return .test (.within field (← listItems values) negated)
  | .between field low high inclusive negated =>
    .ok (.test (.between field low high inclusive negated))
  | .columns first operator second => .ok (.test (.columns first operator second))
  | .null field negated => .ok (.test (.null field negated))
  | .datePart part field operator value => do
    return .test (.datePart part field operator (← partValue part value))
  | .hasRows source negated => .ok (.hasRows source negated)

end BoundSql.Builder
