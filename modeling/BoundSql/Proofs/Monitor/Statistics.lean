import BoundSql.Monitor.Stats
import Mathlib.Data.List.DropRight

/-!
# What statistics say

A monitor that keeps statistics is told of statements, and from time to time it begins again. What
it says is determined by the statements that were answered since: `Stats.Reports` says how, field by
field. One more statement keeps this as long as the number of statements is a word
(`Reports.add`), and so does every run (`reports_after`).

## Implementation notes

The sum of all times and the longest time are compared with naturals. The sum of naturals is cut off
once, at the end, while the monitor cuts off at every step; that this is the same is
`toNat_saturatingAdd`.
-/

namespace BoundSql

open BoundSql.Calendar (Duration)

/-- The largest word as a number. -/
theorem toNat_largestWord : largestWord.toNat = UInt64.size - 1 :=
  UInt64.toNat_ofNat_of_lt' (by decide)

theorem toNat_clampedNanos (d : Duration) :
    (clampedNanos d).toNat = min d.nanos (UInt64.size - 1) := by
  unfold clampedNanos
  split
  case isTrue h =>
    rw [UInt64.toNat_ofNat_of_lt' h]
    omega
  case isFalse h =>
    rw [toNat_largestWord]
    omega

theorem toNat_add_of_lt {a b : UInt64} (h : a.toNat + b.toNat < UInt64.size) :
    (a + b).toNat = a.toNat + b.toNat := by
  rw [UInt64.toNat_add]
  exact Nat.mod_eq_of_lt h

theorem toNat_saturatingAdd (a b : UInt64) :
    (saturatingAdd a b).toNat = min (a.toNat + b.toNat) (UInt64.size - 1) := by
  unfold saturatingAdd
  split
  case isTrue h =>
    rw [toNat_add_of_lt h]
    omega
  case isFalse h =>
    rw [toNat_largestWord]
    omega

/-! ## Statements that were answered -/

/-- A statement that was answered, as monitors are told of it. -/
structure Completion where
  context : Context
  duration : Duration
  outcome : Outcome

namespace Completion

/-- How long the statement took, as far as it is counted. -/
def nanos (c : Completion) : Nat :=
  min c.duration.nanos (UInt64.size - 1)

/-- How long the statements took together. -/
def spent (done : List Completion) : Nat :=
  done.foldl (fun total c => total + c.nanos) 0

/-- How long the slowest statement took; without statements zero. -/
def longest (done : List Completion) : Nat :=
  (done.map nanos).max?.getD 0

/-- The first statement that took longest, if any took time. -/
def slowest? (done : List Completion) : Option Completion :=
  done.find? fun c => 0 < c.nanos && c.nanos = longest done

variable {done : List Completion} {c : Completion}

theorem nanos_eq_zero_iff : c.nanos = 0 ↔ c.duration.nanos = 0 := by
  have hsize : 0 < UInt64.size - 1 := by decide
  unfold nanos
  omega

theorem spent_concat (done : List Completion) (c : Completion) :
    spent (done ++ [c]) = spent done + c.nanos :=
  List.foldl_concat _ _ _ _

theorem le_longest (hc : c ∈ done) : c.nanos ≤ longest done := by
  have hmem := List.mem_map_of_mem (f := nanos) hc
  cases hmax : (done.map nanos).max? with
  | none =>
      rw [List.max?_eq_none_iff.mp hmax] at hmem
      cases hmem
  | some n =>
      rw [longest, hmax]
      exact (List.max?_eq_some_iff.mp hmax).2 _ hmem

theorem exists_nanos_eq_longest (h : 0 < longest done) : ∃ c ∈ done, c.nanos = longest done := by
  unfold longest at h ⊢
  cases hmax : (done.map nanos).max? with
  | none =>
      rw [hmax] at h
      cases h
  | some n => exact List.mem_map.mp (List.max?_eq_some_iff.mp hmax).1

theorem longest_concat (done : List Completion) (c : Completion) :
    longest (done ++ [c]) = max (longest done) c.nanos := by
  unfold longest
  rw [List.map_append, List.map_singleton]
  cases done.map nanos with
  | nil => simp
  | cons n ns =>
      rw [List.cons_append, List.max?_cons', List.max?_cons', List.foldl_concat]
      rfl

theorem slowest?_concat (done : List Completion) (c : Completion) :
    slowest? (done ++ [c]) = if longest done < c.nanos then some c else slowest? done := by
  unfold slowest?
  rw [List.find?_append, longest_concat]
  split
  case isTrue hlonger =>
    have hbefore : done.find? (fun x => 0 < x.nanos && x.nanos = c.nanos) = none := by
      apply List.find?_eq_none.mpr
      intro x hx
      have hle := le_longest hx
      have hne : x.nanos ≠ c.nanos := by omega
      simp [hne]
    have hpos : 0 < c.nanos := by omega
    rw [Nat.max_eq_right (Nat.le_of_lt hlonger), hbefore]
    simp [hpos]
  case isFalse hshorter =>
    rw [Nat.max_eq_left (Nat.not_lt.mp hshorter)]
    cases hbefore : done.find? (fun x => 0 < x.nanos && x.nanos = longest done) with
    | some x => rfl
    | none =>
        -- Had the last one taken as long as any before, one of those would have been found.
        have hnot : ¬(0 < c.nanos ∧ c.nanos = longest done) := by
          rintro ⟨hpos, heq⟩
          obtain ⟨x, hx, hlongest⟩ := exists_nanos_eq_longest (heq ▸ hpos)
          have hnone := List.find?_eq_none.mp hbefore x hx
          simp only [Bool.and_eq_true, decide_eq_true_eq] at hnone
          exact hnone ⟨hlongest ▸ heq ▸ hpos, hlongest⟩
        simpa using hnot

/-- No statement is the slowest just if none took time. -/
theorem slowest?_eq_none_iff : slowest? done = none ↔ ∀ c ∈ done, c.duration.nanos = 0 := by
  rw [slowest?, List.find?_eq_none]
  constructor
  · intro h c hc
    have hzero : longest done = 0 := by
      by_contra hpos
      obtain ⟨x, hx, hlongest⟩ := exists_nanos_eq_longest (Nat.pos_of_ne_zero hpos)
      have hnone := h x hx
      simp only [Bool.and_eq_true, decide_eq_true_eq] at hnone
      exact hnone ⟨by omega, hlongest⟩
    have hle := le_longest hc
    exact nanos_eq_zero_iff.mp (by omega)
  · intro h c hc
    simp [nanos_eq_zero_iff.mpr (h c hc)]

/-- The slowest statement is the first that took so long. -/
theorem slowest?_eq_some_iff : slowest? done = some c ↔ ∃ front back, done = front ++ c :: back ∧
    0 < c.nanos ∧ c.nanos = longest done ∧ ∀ x ∈ front, x.nanos < c.nanos := by
  rw [slowest?, List.find?_eq_some_iff_append]
  simp only [Bool.and_eq_true, decide_eq_true_eq, Bool.not_eq_true', Bool.and_eq_false_iff,
    decide_eq_false_iff_not]
  constructor
  · rintro ⟨⟨hpos, hmax⟩, front, back, hdone, hfront⟩
    refine ⟨front, back, hdone, hpos, hmax, fun x hx => ?_⟩
    have hle : x.nanos ≤ longest done := le_longest (hdone ▸ List.mem_append_left _ hx)
    have hnot := hfront x hx
    omega
  · rintro ⟨front, back, hdone, hpos, hmax, hfront⟩
    refine ⟨⟨hpos, hmax⟩, front, back, hdone, fun x hx => ?_⟩
    have hless := hfront x hx
    omega

/-- Every statement is of a kind that is counted apart, or of another. -/
theorem countP_kinds (done : List Completion) :
    let ofKind (kind : StatementKind) := done.countP fun c => c.context.kind = kind
    ofKind .select + ofKind .insert + ofKind .update + ofKind .delete + ofKind .truncate +
      ofKind .other = done.length := by
  induction done with
  | nil => rfl
  | cons c done ih =>
      simp only [List.countP_cons, List.length_cons, ← ih]
      cases c.context.kind <;> simp <;> omega

end Completion

/-! ## What happens -/

/-- The number of statements of a kind that is counted apart. -/
def KindCounts.of? (counts : KindCounts) : StatementKind → Option UInt64
  | .select => some counts.select
  | .insert => some counts.insert
  | .update => some counts.update
  | .delete => some counts.delete
  | .truncate => some counts.truncate
  | .other => none

theorem KindCounts.of?_add (counts : KindCounts) (kind added : StatementKind) :
    (counts.add added).of? kind =
      (counts.of? kind).map fun n => if added = kind then n + 1 else n := by
  cases added <;> cases kind <;> rfl

namespace Stats

/-- What happens to statistics: a monitor is told something, or it begins again. -/
inductive Event where
  | started (ctx : Context)
  | completed (c : Completion)
  | slow (ctx : Context) (duration : Duration)
  | reset

/-- What the monitor that keeps statistics makes of an event. -/
def Event.tell : Event → StateM Stats PUnit
  | started ctx => (monitor modify).started ctx
  | completed c => (monitor modify).completed c.context c.duration c.outcome
  | slow ctx duration => (monitor modify).slow ctx duration
  | reset => set empty

/-- The statistics after events, the first of them first. -/
def after (events : List Event) : Stats :=
  events.foldl (fun s event => (event.tell.run s).2) empty

/-- The statement that was answered, if the event is that one was. -/
def Event.completion? : Event → Option Completion
  | completed c => some c
  | _ => none

/-- Whether the monitor begins again. -/
def Event.isReset : Event → Bool
  | reset => true
  | _ => false

/-- The statements that were answered since the monitor last began. -/
def sinceReset (events : List Event) : List Completion :=
  (events.rtakeWhile fun event => !event.isReset).filterMap Event.completion?

/-- The statistics say what there is to say of the statements that were answered. -/
structure Reports (s : Stats) (done : List Completion) : Prop where
  total : s.total.toNat = done.length
  failed : s.failed.toNat = done.countP fun c => c.outcome.isFailure
  kinds : ∀ kind n, s.kinds.of? kind = some n → n.toNat = done.countP fun c => c.context.kind = kind
  totalNanos : s.totalNanos.toNat = min (Completion.spent done) (UInt64.size - 1)
  maxNanos : s.maxNanos.toNat = Completion.longest done
  slowest : s.slowest = (Completion.slowest? done).map fun c => c.context.sql

theorem reports_empty : empty.Reports [] where
  total := rfl
  failed := rfl
  kinds kind n h := by cases kind <;> cases h <;> rfl
  totalNanos := rfl
  maxNanos := rfl
  slowest := rfl

/-- A counter of the statements with a property goes on counting them. -/
theorem toNat_counted {n : UInt64} {done : List Completion} {p : Completion → Bool}
    (h : n.toNat = done.countP p) (hlength : done.length + 1 < UInt64.size) (c : Completion) :
    (if p c then n + 1 else n).toNat = (done ++ [c]).countP p := by
  have hle := List.countP_le_length (p := p) (l := done)
  have hone : (1 : UInt64).toNat = 1 := rfl
  rw [List.countP_append, List.countP_singleton, ← h]
  split
  case isTrue =>
    rw [toNat_add_of_lt (by omega), hone]
  case isFalse => rfl

/-- One more statement keeps the report, as long as the statements can be counted. -/
theorem Reports.add {s : Stats} {done : List Completion} (h : s.Reports done)
    (hlength : done.length + 1 < UInt64.size) (c : Completion) :
    (s.add c.context c.duration c.outcome).Reports (done ++ [c]) where
  total := by
    have hone : (1 : UInt64).toNat = 1 := rfl
    have htotal := h.total
    rw [Stats.add, toNat_add_of_lt (by omega), List.length_append, htotal]
    rfl
  failed := toNat_counted h.failed hlength c
  kinds kind n hn := by
    rw [Stats.add, KindCounts.of?_add] at hn
    obtain ⟨m, hm, rfl⟩ := Option.map_eq_some_iff.mp hn
    simpa using toNat_counted (h.kinds kind m hm) hlength c
  totalNanos := by
    rw [Stats.add, toNat_saturatingAdd, toNat_clampedNanos, h.totalNanos, Completion.spent_concat,
      Completion.nanos]
    omega
  maxNanos := by
    rw [Stats.add, UInt64.toNat_max, toNat_clampedNanos, h.maxNanos, Completion.longest_concat]
    rfl
  slowest := by
    have hlonger : s.maxNanos < clampedNanos c.duration ↔ Completion.longest done < c.nanos := by
      rw [UInt64.lt_iff_toNat_lt, toNat_clampedNanos, h.maxNanos]
      rfl
    rw [Completion.slowest?_concat, Stats.add]
    simp only [hlonger, h.slowest]
    split <;> rfl

theorem after_concat (events : List Event) (event : Event) :
    after (events ++ [event]) = (event.tell.run (after events)).2 :=
  List.foldl_concat _ _ _ _

theorem sinceReset_concat (events : List Event) (event : Event) :
    sinceReset (events ++ [event]) =
      match event with
      | .reset => []
      | .completed c => sinceReset events ++ [c]
      | .started _ | .slow _ _ => sinceReset events := by
  unfold sinceReset
  rw [List.rtakeWhile_concat]
  cases event <;> simp [Event.isReset, Event.completion?]

/-- Whatever happens, the statistics say what there is to say of the statements answered since. -/
theorem reports_after (events : List Event) (h : (sinceReset events).length < UInt64.size) :
    (after events).Reports (sinceReset events) := by
  induction events using List.reverseRecOn with
  | nil => exact reports_empty
  | append_singleton events event ih =>
      rw [after_concat]
      rw [sinceReset_concat] at h ⊢
      cases event with
      | reset => exact reports_empty
      | completed c =>
          have hlength : (sinceReset events).length + 1 < UInt64.size := by simpa using h
          exact (ih (by omega)).add hlength c
      | started ctx => exact ih h
      | slow ctx duration => exact ih h

/-- After any events the statistics say what there is to say of the statements that were answered
since the monitor last began. The statements of the kinds that are counted apart and the others are
all of them. The text that is kept is that of the first statement that took longest, and there is
none just if no statement took time. -/
theorem after_reports (events : List Event) (h : (sinceReset events).length < UInt64.size) :
    let s := after events
    let done := sinceReset events
    s.Reports done ∧
    s.kinds.select.toNat + s.kinds.insert.toNat + s.kinds.update.toNat + s.kinds.delete.toNat +
      s.kinds.truncate.toNat + (done.countP fun c => c.context.kind = .other) = s.total.toNat ∧
    (s.slowest = none ↔ ∀ c ∈ done, c.duration.nanos = 0) ∧
    ∀ sql, s.slowest = some sql ↔ ∃ front c back, done = front ++ c :: back ∧
      c.context.sql = sql ∧ 0 < c.nanos ∧ c.nanos = s.maxNanos.toNat ∧
      ∀ x ∈ front, x.nanos < c.nanos := by
  intro s done
  have hreports : s.Reports done := reports_after events h
  refine ⟨hreports, ?kinds, ?none, ?some⟩
  case kinds =>
    have hkinds := hreports.kinds
    rw [hkinds .select _ rfl, hkinds .insert _ rfl, hkinds .update _ rfl, hkinds .delete _ rfl,
      hkinds .truncate _ rfl, hreports.total, ← Completion.countP_kinds done]
  case none =>
    rw [hreports.slowest, Option.map_eq_none_iff, Completion.slowest?_eq_none_iff]
  case some =>
    intro sql
    rw [hreports.slowest, Option.map_eq_some_iff, hreports.maxNanos]
    constructor
    · rintro ⟨c, hc, hsql⟩
      obtain ⟨front, back, hdone, hpos, hmax, hfront⟩ := Completion.slowest?_eq_some_iff.mp hc
      exact ⟨front, c, back, hdone, hsql, hpos, hmax, hfront⟩
    · rintro ⟨front, c, back, hdone, hsql, hpos, hmax, hfront⟩
      exact ⟨c, Completion.slowest?_eq_some_iff.mpr ⟨front, back, hdone, hpos, hmax, hfront⟩, hsql⟩

/-- One statement before the monitor began again, and then three, of which the last two took longer
than can be counted: the first of these is the slowest. -/
theorem after_reports_overflow :
    let done (sql : String) (nanos : Nat) (outcome : Outcome) : Event :=
      .completed ⟨.of sql 0 none, ⟨nanos⟩, outcome⟩
    let events := [done "SELECT 0" 9 (.rows 1), .reset, done "SELECT 1" 5 (.rows 1),
      done "DELETE FROM a" UInt64.size (.failed "lost"), done "WITH b" (2 * UInt64.size) (.rows 0)]
    (sinceReset events).length < UInt64.size ∧ (after events).Reports (sinceReset events) ∧
      (after events).totalNanos.toNat = UInt64.size - 1 ∧
      (after events).slowest = some "DELETE FROM a" := by
  intro done events
  have hlength : (sinceReset events).length < UInt64.size := by decide
  obtain ⟨hreports, -, -, hslowest⟩ := after_reports events hlength
  refine ⟨hlength, hreports, ?_, ?_⟩
  · rw [hreports.totalNanos]
    decide
  · rw [hslowest, hreports.maxNanos]
    exact ⟨[_], _, [_], rfl, rfl, by decide, by decide, by decide⟩

end Stats

end BoundSql
