import Mathlib.Tactic.Tauto
import BoundSql.Builder.Vocabulary
import BoundSql.Proofs.DayNumber
import BoundSql.Proofs.Edit.Fields

/-!
# Well-formed statements

`Statement.WellFormed` collects what holds of every statement that is built by edits: its action,
the conditions of its joins, what the parts of dates are compared with, and what stands in `HAVING`.
`Builder.Reachable` says that a builder comes of a new one by steps, where the statements that are
nested come of such builders as well. `Reachable.wellFormed` goes down into all of them.

The proof says once what an edit does: `onStatement_wellFormed` for the statement itself, and
`nested_of_onStatement` for the statements in it, of which an edit adds only those it is given.
-/

namespace BoundSql

open BoundSql.Builder (Filter component partValue listItems insertRows_wellFormed
  setFields_wellFormed stepFields_wellFormed)
open BoundSql.Calendar (Date)

/-! ## What holds of a statement -/

/-- What a part of a date is compared with: a day, or a number that the part can be. -/
def DatePart.Binds : DatePart → Value → Prop
  | .date, .date _ => True
  | .day, .int n => 1 ≤ n ∧ n ≤ 31
  | .month, .int n => 1 ≤ n ∧ n ≤ 12
  | .year, .int _ => True
  | _, _ => False

/-- What holds of every statement that is built by edits. -/
structure Statement.WellFormed (s : Statement) : Prop where
  action : s.action.WellFormed
  /-- Just the joins that pair every row with every row have no condition. -/
  joins : ∀ j ∈ s.joins, j.on = none ↔ j.kind = .cross
  dateParts : ∀ c, c ∈ s.wheres ∨ c ∈ s.havings → ∀ part field operator value,
    c.predicate = .test (.datePart part field operator value) → part.Binds value
  /-- Groups are only compared, or tested by a fragment. -/
  havings : ∀ c ∈ s.havings, (∃ field operator value,
    c.predicate = .test (.compare field operator value)) ∨ ∃ f, c.predicate = .test (.raw f)

/-- The statements that stand in a condition. -/
def Condition.nested (c : Condition) : List Statement :=
  match c.predicate with
  | .hasRows (.statement s) _ => [s]
  | _ => []

/-- The statements that stand in what is appended. -/
def UnionMember.nested (m : UnionMember) : List Statement :=
  match m.source with
  | .statement s => [s]
  | .raw _ => []

/-- The statements that stand in a statement, but not in one of the others. -/
def Statement.nested (s : Statement) : List Statement :=
  (s.wheres ++ s.havings).flatMap Condition.nested ++ s.unions.flatMap UnionMember.nested

/-- The statements that an edit is given to put into another. -/
def Edit.nested : Edit → List Statement
  | .filter _ (.hasRows (.statement s) _) => [s]
  | .union _ (.statement s) => [s]
  | _ => []

/-- The statement itself, and all that stand in it however deep. -/
inductive Statement.Within : Statement → Statement → Prop
  | self (s : Statement) : Within s s
  | nested {s t u : Statement} (ht : t ∈ s.nested) (hu : Within t u) : Within s u

/-! ## Parts of dates -/

theorem component_bounds {part : String} {low high n : Int64} {ofDate : Date → Int64} {v : Value}
    (h : component part low high ofDate v = .ok n)
    (hdates : ∀ d, low ≤ ofDate d ∧ ofDate d ≤ high) : low ≤ n ∧ n ≤ high := by
  unfold component at h
  split at h
  case h_1 given =>
    split at h
    case isTrue hrange =>
      cases h
      simpa using hrange
    case isFalse => cases h
  case h_2 =>
    split at h
    case h_1 d _ =>
      cases h
      exact hdates d
    case h_2 => cases h

theorem ofNat_bounds {k bound : Nat} (hlow : 1 ≤ k) (hhigh : k ≤ bound) (hbound : bound < 64) :
    1 ≤ Int64.ofNat k ∧ Int64.ofNat k ≤ Int64.ofNat bound := by
  rw [Int64.le_iff_toInt_le, Int64.le_iff_toInt_le, Int64.toInt_ofNat_of_lt (by omega),
    Int64.toInt_ofNat_of_lt (by omega), Int64.toInt_one]
  omega

/-- What a part of a date is compared with can be that part. -/
theorem binds_of_partValue {part : DatePart} {given bound : Value}
    (h : partValue part given = .ok bound) : part.Binds bound := by
  cases part with
  | date =>
      simp only [partValue] at h
      split at h
      case h_1 =>
        cases h
        trivial
      case h_2 => cases h
  | day =>
      obtain ⟨n, hn, rfl⟩ := map_eq_ok_iff.mp h
      exact component_bounds hn fun d => ofNat_bounds d.day_bounds.1 d.day_bounds.2 (by decide)
  | month =>
      obtain ⟨n, hn, rfl⟩ := map_eq_ok_iff.mp h
      exact component_bounds hn fun d =>
        ofNat_bounds d.month_bounds.1 d.month_bounds.2 (by decide)
  | year =>
      obtain ⟨n, -, rfl⟩ := map_eq_ok_iff.mp h
      trivial

/-! ## One edit -/

/-- The parts of dates in what is asked of rows are compared with what they can be. -/
theorem binds_of_predicate {asked : Filter} {predicate : Predicate}
    (h : asked.predicate = .ok predicate) {part : DatePart} {field operator : String}
    {value : Value} (hpart : predicate = .test (.datePart part field operator value)) :
    part.Binds value := by
  subst hpart
  cases asked with
  | datePart part field operator given =>
      obtain ⟨bound, hbound, hpure⟩ := bind_eq_ok_iff.mp h
      cases hpure
      exact binds_of_partValue hbound
  | withinValue field values negated =>
      obtain ⟨items, -, hpure⟩ := bind_eq_ok_iff.mp h
      cases hpure
  | _ => cases h

/-- Only what is asked to have rows puts a statement into a condition. -/
theorem nested_of_predicate {joiner : Joiner} {asked : Filter} {predicate : Predicate}
    (h : asked.predicate = .ok predicate) :
    Condition.nested ⟨joiner, predicate⟩ = (Edit.filter joiner asked).nested := by
  cases asked with
  | datePart part field operator given =>
      obtain ⟨bound, -, hpure⟩ := bind_eq_ok_iff.mp h
      cases hpure
      rfl
  | withinValue field values negated =>
      obtain ⟨items, -, hpure⟩ := bind_eq_ok_iff.mp h
      cases hpure
      rfl
  | hasRows source negated =>
      cases h
      cases source <;> rfl
  | _ => cases h; rfl

namespace Edit
variable {e : Edit} {s s' : Statement}

theorem withAction_wellFormed {result : Except Refusal Action} (h : s.withAction result = .ok s')
    (hresult : ∀ action, result = .ok action → action.WellFormed) (hs : s.WellFormed) :
    s'.WellFormed := by
  obtain ⟨action, haction, rfl⟩ := map_eq_ok_iff.mp h
  exact { hs with action := hresult action haction }

theorem addJoin_wellFormed {j : Join} (hj : j.on = none ↔ j.kind = .cross) (hs : s.WellFormed) :
    (s.addJoin j).WellFormed :=
  { hs with joins := List.forall_mem_append.mpr ⟨hs.joins, List.forall_mem_singleton.mpr hj⟩ }

theorem addWhere_wellFormed {joiner : Joiner} {predicate : Predicate}
    (hparts : ∀ part field operator value,
      predicate = .test (.datePart part field operator value) → part.Binds value)
    (hs : s.WellFormed) : (s.addWhere joiner predicate).WellFormed where
  action := hs.action
  joins := hs.joins
  havings := hs.havings
  dateParts := by
    rintro c (hc | hc)
    · obtain hc | hc := List.mem_append.mp hc
      · exact hs.dateParts c (.inl hc)
      · obtain rfl := List.mem_singleton.mp hc
        exact hparts
    · exact hs.dateParts c (.inr hc)

theorem addHaving_wellFormed {joiner : Joiner} {t : Test}
    (ht : (∃ field operator value, t = .compare field operator value) ∨ ∃ f, t = .raw f)
    (hs : s.WellFormed) : (s.addHaving joiner t).WellFormed where
  action := hs.action
  joins := hs.joins
  havings := by
    apply List.forall_mem_append.mpr ⟨hs.havings, List.forall_mem_singleton.mpr ?_⟩
    obtain ⟨field, operator, value, rfl⟩ | ⟨f, rfl⟩ := ht
    · exact .inl ⟨field, operator, value, rfl⟩
    · exact .inr ⟨f, rfl⟩
  dateParts := by
    rintro c (hc | hc)
    · exact hs.dateParts c (.inl hc)
    · obtain hc | hc := List.mem_append.mp hc
      · exact hs.dateParts c (.inr hc)
      · obtain rfl := List.mem_singleton.mp hc
        rintro part field operator value ⟨⟩
        obtain ⟨_, _, _, ht⟩ | ⟨_, ht⟩ := ht <;> cases ht

/-- An edit of a well-formed statement leaves a well-formed statement. -/
theorem onStatement_wellFormed (h : e.onStatement s = .ok s') (hs : s.WellFormed) :
    s'.WellFormed := by
  cases e with
  | join kind table on =>
      cases h
      exact addJoin_wellFormed (by cases kind <;> simp [PairedJoin.kind]) hs
  | crossJoin target =>
      cases h
      exact addJoin_wellFormed (by simp) hs
  | filter joiner asked =>
      obtain ⟨predicate, hpredicate, rfl⟩ := map_eq_ok_iff.mp h
      exact addWhere_wellFormed (fun _ _ _ _ => binds_of_predicate hpredicate) hs
  | havingCompare joiner field operator value =>
      cases h
      exact addHaving_wellFormed (.inl ⟨field, operator, value, rfl⟩) hs
  | havingRaw joiner fragment =>
      cases h
      exact addHaving_wellFormed (.inr ⟨fragment, rfl⟩) hs
  | insert rows =>
      exact withAction_wellFormed h (fun _ h => insertRows_wellFormed h hs.action) hs
  | update fields => exact withAction_wellFormed h (fun _ => setFields_wellFormed) hs
  | steps negative stepped overwrites =>
      exact withAction_wellFormed h (fun _ => stepFields_wellFormed) hs
  | step field negative amount =>
      cases h
      exact { hs with action := ⟨by simp, by simp⟩ }
  | insertRaw _ | updateRaw _ | delete | truncate _ | select =>
      cases h
      exact { hs with action := trivial }
  | _ =>
      cases h
      exact { hs with }

theorem mem_nested_iff {t : Statement} :
    t ∈ s.nested ↔
      (t ∈ s.wheres.flatMap Condition.nested ∨ t ∈ s.havings.flatMap Condition.nested) ∨
        t ∈ s.unions.flatMap UnionMember.nested := by
  rw [Statement.nested, List.flatMap_append, List.mem_append, List.mem_append]

/-- An edit puts no statement into another but those it is given. -/
theorem nested_of_onStatement (h : e.onStatement s = .ok s') :
    ∀ t ∈ s'.nested, t ∈ s.nested ∨ t ∈ e.nested := by
  intro t ht
  rw [mem_nested_iff] at ht ⊢
  cases e with
  | filter joiner asked =>
      obtain ⟨predicate, hpredicate, rfl⟩ := map_eq_ok_iff.mp h
      rw [Statement.addWhere, List.flatMap_append, List.flatMap_singleton, List.mem_append,
        nested_of_predicate hpredicate] at ht
      tauto
  | union all source =>
      cases h
      have hnested : UnionMember.nested ⟨all, source⟩ = (Edit.union all source).nested := by
        cases source <;> rfl
      rw [List.flatMap_append, List.flatMap_singleton, List.mem_append, hnested] at ht
      tauto
  | havingCompare joiner field operator value =>
      cases h
      rw [Statement.addHaving, List.flatMap_append] at ht
      exact .inl (by simpa [Condition.nested, Condition.ofTest] using ht)
  | havingRaw joiner fragment =>
      cases h
      rw [Statement.addHaving, List.flatMap_append] at ht
      exact .inl (by simpa [Condition.nested, Condition.ofTest] using ht)
  | insert rows =>
      obtain ⟨action, -, rfl⟩ := map_eq_ok_iff.mp h
      exact .inl ht
  | update fields =>
      obtain ⟨action, -, rfl⟩ := map_eq_ok_iff.mp h
      exact .inl ht
  | steps negative stepped overwrites =>
      obtain ⟨action, -, rfl⟩ := map_eq_ok_iff.mp h
      exact .inl ht
  | _ =>
      cases h
      exact .inl ht

end Edit

/-! ## Builders that are reached -/

/-- Whatever stands in a statement, however deep, is well formed. -/
def Statement.WellFormedThroughout (s : Statement) : Prop :=
  ∀ t, s.Within t → t.WellFormed

theorem wellFormedThroughout_iff {s : Statement} :
    s.WellFormedThroughout ↔ s.WellFormed ∧ ∀ t ∈ s.nested, t.WellFormedThroughout := by
  constructor
  · intro h
    exact ⟨h s (.self s), fun t ht u hu => h u (.nested ht hu)⟩
  · rintro ⟨hself, hnested⟩ t ht
    cases ht with
    | self => exact hself
    | nested hu ht => exact hnested _ hu t ht

/-- Edits that succeed keep all well formed, if what they put into the statement is. -/
theorem Succeed.wellFormedThroughout {b b' : Builder} {edits : List Edit}
    (h : Succeed b edits b') (hb : b.statement.WellFormedThroughout)
    (hnested : ∀ e ∈ edits, ∀ t ∈ e.nested, t.WellFormedThroughout) :
    b'.statement.WellFormedThroughout := by
  induction h with
  | nil => exact hb
  | cons happly _ ih =>
      rw [List.forall_mem_cons] at hnested
      apply ih _ hnested.2
      have hstatement := Edit.onStatement_of_apply happly
      obtain ⟨hself, hinside⟩ := wellFormedThroughout_iff.mp hb
      apply wellFormedThroughout_iff.mpr ⟨Edit.onStatement_wellFormed hstatement hself, ?_⟩
      intro t ht
      obtain ht | ht := Edit.nested_of_onStatement hstatement t ht
      · exact hinside t ht
      · exact hnested.1 t ht

/-- The statements that a step is given to put into another. -/
def Step.nested (step : Step) : List Statement :=
  step.edits.flatMap Edit.nested

/-- Builders that come of a new one by steps, failing ones among them. The statements that are put
into another are those of builders that are reached as well. -/
inductive Builder.Reachable : Builder → Prop
  | new (dialect : Sql.Dialect) (table : TableRef) : Reachable (.new dialect table)
  | run {b : Builder} (step : Step) (builderOf : Statement → Builder) (hb : Reachable b)
      (hnested : ∀ s ∈ step.nested, (builderOf s).statement = s)
      (hbuilders : ∀ s ∈ step.nested, Reachable (builderOf s)) : Reachable (step.run b).1

theorem new_wellFormed (dialect : Sql.Dialect) (table : TableRef) :
    (Builder.new dialect table).statement.WellFormedThroughout := by
  apply wellFormedThroughout_iff.mpr
  refine ⟨⟨trivial, ?_, ?_, ?_⟩, ?_⟩ <;> simp [Builder.new, Statement.of, Statement.nested]

/-- The edits that succeed in a step are among those it chooses. -/
theorem Ran.exists_succeed {b : Builder} {edits : List Edit} {result : Builder × Option Refusal}
    (h : Ran b edits result) : ∃ done, Succeed b done result.1 ∧ ∀ e ∈ done, e ∈ edits := by
  match result, h with
  | (_, none), h => exact ⟨edits, h, fun _ he => he⟩
  | (_, some _), ⟨done, refused, rest, hedits, hdone, _⟩ =>
      exact ⟨done, hdone, fun e he => hedits ▸ List.mem_append_left _ he⟩

/-- Whatever stands in the statement of a builder that is reached is well formed. -/
theorem Builder.Reachable.wellFormed {b : Builder} (h : b.Reachable) :
    b.statement.WellFormedThroughout := by
  induction h with
  | new dialect table => exact new_wellFormed dialect table
  | @run b step builderOf _ hnested _ ih ihnested =>
      obtain ⟨done, hdone, hchosen⟩ := (step.ran b).exists_succeed
      apply hdone.wellFormedThroughout ih
      intro e he t ht
      have hmem : t ∈ step.nested := List.mem_flatMap.mpr ⟨e, hchosen e he, ht⟩
      exact hnested t hmem ▸ ihnested t hmem

/-! ## Refusals -/

theorem component_refused (part : String) (low high : Int64) (ofDate : Date → Int64) (v : Value) :
    RefusedAsEdit (component part low high ofDate v) := by
  unfold component
  split
  · split
    · exact refusedAsEdit_ok _
    · exact refusedAsEdit_error trivial
  · split
    · exact refusedAsEdit_ok _
    · exact refusedAsEdit_error trivial

theorem partValue_refused (part : DatePart) (v : Value) : RefusedAsEdit (partValue part v) := by
  cases part with
  | date =>
      simp only [partValue]
      split
      · exact refusedAsEdit_ok _
      · exact refusedAsEdit_error trivial
  | day => exact (component_refused _ _ _ _ v).map
  | month => exact (component_refused _ _ _ _ v).map
  | year => exact (component_refused _ _ _ _ v).map

theorem listItems_refused (v : Value) : RefusedAsEdit (listItems v) := by
  unfold listItems
  split
  · exact refusedAsEdit_ok _
  · exact refusedAsEdit_error trivial

theorem predicate_refused (asked : Filter) : RefusedAsEdit asked.predicate := by
  cases asked with
  | withinValue field values negated =>
      exact (listItems_refused values).bind fun _ _ => refusedAsEdit_ok _
  | datePart part field operator value =>
      exact (partValue_refused part value).bind fun _ _ => refusedAsEdit_ok _
  | _ => exact refusedAsEdit_ok _

theorem onStatement_refused (e : Edit) (s : Statement) : RefusedAsEdit (e.onStatement s) := by
  cases e with
  | filter joiner asked => exact (predicate_refused asked).map
  | insert rows => exact (Builder.insertRows_refused s.action rows).map
  | update fields => exact (Builder.setFields_refused fields).map
  | steps negative stepped overwrites =>
      exact (Builder.stepFields_refused negative stepped overwrites).map
  | _ => exact refusedAsEdit_ok _

theorem apply_refused (e : Edit) (b : Builder) : RefusedAsEdit (e.apply b) := by
  unfold Edit.apply
  split
  · exact refusedAsEdit_ok _
  · exact refusedAsEdit_ok _
  · exact (onStatement_refused e b.statement).map

/-! ## All steps -/

/-- Every builder that is reached is well formed, down to the statements nested in its own. A call
that is refused leaves it as it is. A step that fails stops at the first of its edits that is
refused, and keeps what the edits before that one did. -/
theorem reachable_wellFormed {b : Builder} (h : b.Reachable) :
    (∀ s, b.statement.Within s → s.WellFormed) ∧
      (∀ (e : Edit) (cause : Refusal), ((Step.edit e).run b).2 = some cause →
        ((Step.edit e).run b).1 = b ∧ cause.IsOfEdit) ∧
      ∀ (step : Step) (b' : Builder) (cause : Refusal), step.run b = (b', some cause) →
        ∃ done refused rest, step.edits = done ++ refused :: rest ∧ Succeed b done b' ∧
          refused.apply b' = .error cause ∧ cause.IsOfEdit := by
  refine ⟨h.wellFormed, ?call, ?step⟩
  case call =>
    intro e cause hcause
    cases happly : e.apply b with
    | ok b' =>
        rw [Edit.run_edit_ok happly] at hcause
        cases hcause
    | error cause' =>
        rw [Edit.run_edit_error happly] at hcause ⊢
        cases hcause
        exact ⟨rfl, apply_refused e b cause happly⟩
  case step =>
    intro step b' cause hrun
    have hran := step.ran b
    rw [hrun] at hran
    obtain ⟨done, refused, rest, hedits, hdone, hrefused⟩ := hran
    exact ⟨done, refused, rest, hedits, hdone, hrefused, apply_refused refused b' cause hrefused⟩

/-- Posts of the seventh day of a month. -/
def postsOfDay : Builder :=
  ((Step.edit (.whereDatePart .day .and "posts.created" (.int 7))).run
    (.new .postgres ⟨"posts", none⟩)).1

/-- A block whose third edit is refused. -/
def insertionBlock : Step :=
  .when true [
    .edit (.insert [[("name", .text "Ann"), ("age", .int 41)],
      [("age", .int 35), ("name", .text "Bob")]]),
    .edit (.whereHasRows .and postsOfDay),
    .edit (.whereDatePart .month .and "created" (.int 13)),
    .edit (.limit 5)]

theorem reachable_wellFormed_insertionBlock :
    let users := Builder.new .postgres ⟨"users", none⟩
    let inserted := (insertionBlock.run users).1
    inserted.Reachable ∧ (insertionBlock.run users).2 = some (.outOfRange "month" 1 12 13) ∧
      inserted.statement.action = .insert (.rows ["name", "age"]
        [[.text "Ann", .int 41], [.text "Bob", .int 35]]) ∧
      inserted.statement.limit = none ∧
      inserted.statement.Within postsOfDay.statement ∧ postsOfDay.statement.WellFormed ∧
      ((Step.edit (.update [])).run inserted).1 = inserted := by
  have hposts : postsOfDay.Reachable :=
    .run _ (fun _ => postsOfDay) (.new .postgres ⟨"posts", none⟩) (by rintro s ⟨⟩) (by rintro s ⟨⟩)
  have hinserted : (insertionBlock.run (.new .postgres ⟨"users", none⟩)).1.Reachable := by
    apply Builder.Reachable.run _ (fun _ => postsOfDay) (.new _ _)
    · intro s hs
      exact (List.mem_singleton.mp hs).symm
    · exact fun _ _ => hposts
  have hwithin : (insertionBlock.run (.new .postgres ⟨"users", none⟩)).1.statement.Within
      postsOfDay.statement := .nested (List.mem_singleton_self _) (.self _)
  obtain ⟨hwellFormed, hcall, -⟩ := reachable_wellFormed hinserted
  exact ⟨hinserted, rfl, rfl, rfl, hwithin, hwellFormed _ hwithin,
    (hcall (.update []) .noFields rfl).1⟩

end BoundSql
